import Mathlib.Data.List.Nodup
import OrgConsole.Proofs.Forest.Listing
/-!
# Rows around a node

Where no key repeats, a key opens one node and no other. So the rows stand still up to the node whose
key is added to the expanded keys or taken from them: what changes is that node's own flag and the
rows right below it. `rows_around` says it for the row at any place.
-/

namespace OrgConsole

/-- No key is used twice. -/
def DistinctKeys (forest : List OrgNode) : Prop :=
  ((Tree.labels forest).map (·.key)).Nodup

theorem DistinctKeys.sublist {forest forest' : List OrgNode} (h : DistinctKeys forest)
    (hsub : (Tree.labels forest').Sublist (Tree.labels forest)) : DistinctKeys forest' :=
  List.Nodup.sublist (hsub.map (·.key)) h

theorem DistinctKeys.searchForest {forest : List OrgNode} (h : DistinctKeys forest) (search : String) :
    DistinctKeys (searchForest forest search) :=
  h.sublist (labels_searchForest_sublist forest search)

/-- The key of the first node is used neither below it nor beside it, and no key below it is used
beside it. -/
theorem distinctKeys_cons {n : OrgNode} {rest : List OrgNode} :
    DistinctKeys (n :: rest) ↔
      (∀ i ∈ Tree.labels n.children, i.key ≠ n.label.key) ∧ (∀ i ∈ Tree.labels rest, i.key ≠ n.label.key) ∧
        DistinctKeys n.children ∧ DistinctKeys rest ∧
          ∀ i ∈ Tree.labels n.children, ∀ j ∈ Tree.labels rest, i.key ≠ j.key := by
  unfold DistinctKeys
  rw [Tree.labels_cons, List.map_cons, List.map_append, List.nodup_cons, List.nodup_append, List.mem_append, not_or]
  simp only [List.mem_map, not_exists, not_and, forall_exists_index, and_imp, forall_apply_eq_imp_iff₂, and_assoc]

/-- No key below a node is its own. -/
theorem DistinctKeys.below {forest : List OrgNode} (h : DistinctKeys forest) {n : OrgNode}
    (hn : n ∈ Tree.allSubtrees forest) : ∀ i ∈ Tree.labels n.children, i.key ≠ n.label.key :=
  (distinctKeys_cons.1 (h.sublist (Tree.labels_sublist_of_mem hn))).1

namespace Forest

variable {keys keys' : KeySet}

/-- What is in sight below a node. -/
def rowsBelow (keys : KeySet) (n : OrgNode) : List Row :=
  if keys.contains n.label.key then rows keys n.children else []

theorem rows_cons (keys : KeySet) (n : OrgNode) (rest : List OrgNode) :
    rows keys (n :: rest) = ⟨n, keys.contains n.label.key⟩ :: (rowsBelow keys n ++ rows keys rest) := by
  cases n
  rw [rows, rowsOf, rowsBelow, List.cons_append]

/-- The rows depend on the expanded keys only as far as the forest has them. -/
theorem rows_congr : ∀ {forest : List OrgNode},
    (∀ i ∈ Tree.labels forest, keys'.contains i.key = keys.contains i.key) → rows keys' forest = rows keys forest
  | [], _ => rfl
  | ⟨info, children⟩ :: rest, h => by
    rw [Tree.labels_cons] at h
    have hchildren : rows keys' children = rows keys children :=
      rows_congr fun i hi => h i (List.mem_cons_of_mem _ (List.mem_append_left _ hi))
    have hrest : rows keys' rest = rows keys rest :=
      rows_congr fun i hi => h i (List.mem_cons_of_mem _ (List.mem_append_right _ hi))
    rw [rows_cons, rows_cons, rowsBelow, rowsBelow, h info List.mem_cons_self, hchildren, hrest]

theorem mem_labels_of_row {forest : List OrgNode} {r : Row} (h : r ∈ rows keys forest) :
    r.node.label ∈ Tree.labels forest :=
  (labels_rows_sublist keys forest).subset (List.mem_map_of_mem h)

theorem mem_allSubtrees_of_row {forest : List OrgNode} {r : Row} (h : r ∈ rows keys forest) :
    r.node ∈ Tree.allSubtrees forest :=
  (nodes_rows_sublist keys forest).subset (List.mem_map_of_mem h)

/-- Two sets of keys differ in nothing but one key. -/
def AgreeBut (key : String) (keys keys' : KeySet) : Prop :=
  ∀ other, other ≠ key → keys'.contains other = keys.contains other

theorem AgreeBut.refl (key : String) (keys : KeySet) : AgreeBut key keys keys :=
  fun _ _ => rfl

theorem agreeBut_insert (key : String) (keys : KeySet) : AgreeBut key keys (keys.insert key) := by
  intro other hne
  simp [Std.TreeSet.contains_insert, Ne.symm hne]

theorem agreeBut_erase (key : String) (keys : KeySet) : AgreeBut key keys (keys.erase key) := by
  intro other hne
  simp [Std.TreeSet.contains_erase, Ne.symm hne]

/-- The expanded keys after a node was turned. -/
def turned (keys : KeySet) (key : String) : KeySet :=
  if keys.contains key then keys.erase key else keys.insert key

theorem contains_turned_self (keys : KeySet) (key : String) :
    (turned keys key).contains key = !keys.contains key := by
  unfold turned
  cases h : keys.contains key <;> simp

theorem agreeBut_turned (key : String) (keys : KeySet) : AgreeBut key keys (turned keys key) := by
  unfold turned
  split
  · exact agreeBut_erase key keys
  · exact agreeBut_insert key keys

/-- What is turned twice is as it was. -/
theorem contains_turned_turned (keys : KeySet) (key other : String) :
    (turned (turned keys key) key).contains other = keys.contains other := by
  by_cases h : other = key
  · rw [h, contains_turned_self, contains_turned_self, Bool.not_not]
  · rw [agreeBut_turned key _ other h, agreeBut_turned key _ other h]

theorem AgreeBut.rows_eq {key : String} (h : AgreeBut key keys keys') {forest : List OrgNode}
    (hkey : ∀ i ∈ Tree.labels forest, i.key ≠ key) : rows keys' forest = rows keys forest :=
  rows_congr fun i hi => h i.key (hkey i hi)

/-- Whether the node of a row is open decides over the rows right below it and over nothing else, if
no key repeats. -/
theorem rows_around : ∀ {forest : List OrgNode} {i : Nat} {r : Row}, DistinctKeys forest →
    (rows keys forest)[i]? = some r → ∃ before after, before.length = i ∧
      ∀ keys', AgreeBut r.node.label.key keys keys' →
        rows keys' forest =
          before ++ ⟨r.node, keys'.contains r.node.label.key⟩ :: (rowsBelow keys' r.node ++ after)
  | ⟨info, children⟩ :: rest, i, r, hdistinct, hrow => by
    obtain ⟨hbelow, hbeside, hchildren, hrest, hapart⟩ := distinctKeys_cons.1 hdistinct
    rw [rows_cons] at hrow
    cases i with
    | zero =>
      obtain rfl : _ = r := Option.some.inj hrow
      refine ⟨[], rows keys rest, rfl, fun keys' hagree => ?_⟩
      rw [rows_cons, hagree.rows_eq hbeside, List.nil_append]
    | succ i =>
      rw [List.getElem?_cons_succ, List.getElem?_append] at hrow
      split at hrow
      · -- The row is below the first node, which is open and stays so.
        have hopen : keys.contains info.key = true := by
          by_contra hclosed
          rw [rowsBelow, if_neg hclosed] at hrow
          cases hrow
        rw [rowsBelow, if_pos hopen] at hrow
        have hmem := mem_labels_of_row (List.mem_of_getElem? hrow)
        obtain ⟨before, after, hlength, haround⟩ := rows_around hchildren hrow
        refine ⟨⟨⟨info, children⟩, true⟩ :: before, after ++ rows keys rest, congrArg (· + 1) hlength,
          fun keys' hagree => ?_⟩
        have hopen' : keys'.contains info.key = true := (hagree info.key (hbelow _ hmem).symm).trans hopen
        rw [rows_cons, rowsBelow, if_pos hopen', hopen', haround keys' hagree,
          hagree.rows_eq fun j hj => (hapart _ hmem j hj).symm]
        simp only [List.cons_append, List.append_assoc]
      · -- The row is beside the first node, which keeps its flag and the rows below it.
        have hmem := mem_labels_of_row (List.mem_of_getElem? hrow)
        obtain ⟨before, after, hlength, haround⟩ := rows_around hrest hrow
        refine ⟨⟨⟨info, children⟩, keys.contains info.key⟩ :: (rowsBelow keys ⟨info, children⟩ ++ before), after,
          ?_, fun keys' hagree => ?_⟩
        · rw [List.length_cons, List.length_append, hlength]
          omega
        · have hflag : keys'.contains info.key = keys.contains info.key := hagree info.key (hbeside _ hmem).symm
          have hchildren' : rows keys' children = rows keys children :=
            hagree.rows_eq fun j hj => hapart j hj _ hmem
          rw [rows_cons, rowsBelow, rowsBelow, hflag, hchildren', haround keys' hagree]
          simp only [List.cons_append, List.append_assoc]

/-- A node keeps its place among the rows when it is opened or closed. -/
theorem node_rows_of_agree {forest : List OrgNode} {i : Nat} {r : Row} (hdistinct : DistinctKeys forest)
    (hrow : (rows keys forest)[i]? = some r) (hagree : AgreeBut r.node.label.key keys keys') :
    (rows keys' forest)[i]?.map (·.node) = some r.node := by
  obtain ⟨before, after, rfl, haround⟩ := rows_around hdistinct hrow
  rw [haround keys' hagree, List.getElem?_append_right (Nat.le_refl _), Nat.sub_self]
  rfl

theorem length_rows_gt {forest : List OrgNode} {i : Nat} {r : Row} (hdistinct : DistinctKeys forest)
    (hrow : (rows keys forest)[i]? = some r) (hagree : AgreeBut r.node.label.key keys keys') :
    i < (rows keys' forest).length := by
  obtain ⟨r', hr', -⟩ := Option.map_eq_some_iff.1 (node_rows_of_agree hdistinct hrow hagree)
  exact (List.getElem?_eq_some_iff.1 hr').1

end Forest

end OrgConsole
