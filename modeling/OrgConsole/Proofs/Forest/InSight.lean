import OrgConsole.Proofs.Forest.Depiction
import OrgConsole.Proofs.Forest.Rows
import OrgConsole.Proofs.Forest.Searching
/-!
# Where the rows stand

A row shows the node at one address, even where keys repeat: the rows are the addresses whose nodes have
only open ones above them, in pre-order. Between a node's row and that of its parent there are only rows
from below the parent, and these are deeper than it. In forests whose levels count ancestors, which built
forests and what a search leaves of them are, the parent is therefore the nearest row above with a level
one less.
-/

namespace OrgConsole

namespace Forest

variable {keys : KeySet} {forest : List OrgNode}

/-! ## Addresses of rows -/

/-- Every node above the one at an address is open. -/
def inSight (keys : KeySet) (forest : List OrgNode) (address : List Nat) : Bool :=
  match Tree.lineage? forest address with
  | some (_ :: above) => above.all (keys.contains ·.label.key)
  | _ => false

/-- The addresses of the nodes in sight, in pre-order. -/
def rowAddresses (keys : KeySet) (forest : List OrgNode) : List (List Nat) :=
  (Tree.addresses forest).filter (inSight keys forest)

/-- The row of the node at an address. -/
def rowAt? (keys : KeySet) (forest : List OrgNode) (address : List Nat) : Option Row :=
  match Tree.lineage? forest address with
  | some (n :: _) => some ⟨n, keys.contains n.label.key⟩
  | _ => none

theorem inSight_below (t : OrgNode) (rest : List OrgNode) (i : Nat) (below : List Nat) :
    inSight keys (t :: rest) (0 :: i :: below) =
      (keys.contains t.label.key && inSight keys t.children (i :: below)) := by
  unfold inSight
  rw [Tree.lineage?_cons_zero]
  match h : Tree.lineage? t.children (i :: below) with
  | none => simp
  | some [] => exact absurd h (Tree.lineage?_ne_nil t.children i below)
  | some (n :: above) => simp [List.all_append, Bool.and_comm]

theorem rowAt?_below (t : OrgNode) (rest : List OrgNode) (i : Nat) (below : List Nat) :
    rowAt? keys (t :: rest) (0 :: i :: below) = rowAt? keys t.children (i :: below) := by
  unfold rowAt?
  rw [Tree.lineage?_cons_zero]
  match h : Tree.lineage? t.children (i :: below) with
  | none => rfl
  | some [] => exact absurd h (Tree.lineage?_ne_nil t.children i below)
  | some (n :: above) => rfl

theorem inSight_beside (t : OrgNode) (rest : List OrgNode) (i : Nat) (below : List Nat) :
    inSight keys (t :: rest) (Tree.besideFirst (i :: below)) = inSight keys rest (i :: below) := by
  rw [inSight, inSight, Tree.besideFirst, List.modifyHead_cons, Tree.lineage?_cons_succ]

theorem rowAt?_beside (t : OrgNode) (rest : List OrgNode) (i : Nat) (below : List Nat) :
    rowAt? keys (t :: rest) (Tree.besideFirst (i :: below)) = rowAt? keys rest (i :: below) := by
  rw [rowAt?, rowAt?, Tree.besideFirst, List.modifyHead_cons, Tree.lineage?_cons_succ]

/-- The addresses of the rows below a node, seen from there. -/
def addressesBelow (keys : KeySet) (n : OrgNode) : List (List Nat) :=
  if keys.contains n.label.key then rowAddresses keys n.children else []

theorem rowAddresses_cons (keys : KeySet) (t : OrgNode) (rest : List OrgNode) :
    rowAddresses keys (t :: rest) =
      [0] :: ((addressesBelow keys t).map (0 :: ·) ++ (rowAddresses keys rest).map Tree.besideFirst) := by
  let keepBelow (address : List Nat) : Bool := keys.contains t.label.key && inSight keys t.children address
  have hbelow : (Tree.addresses t.children).filter keepBelow = addressesBelow keys t := by
    rw [addressesBelow, rowAddresses]
    cases hopen : keys.contains t.label.key <;> simp [keepBelow, hopen]
  have hsplit := @Tree.filter_addresses_cons _ t rest _ keepBelow _ (inSight_below t rest) (inSight_beside t rest)
  rw [rowAddresses, hsplit, hbelow]
  rfl

theorem exists_cons_of_mem_rowAddresses {address : List Nat} (h : address ∈ rowAddresses keys forest) :
    ∃ i below, address = i :: below :=
  Tree.exists_cons_of_mem_addresses (List.mem_filter.1 h).1

/-- The rows show the nodes at their addresses, in order. -/
theorem map_some_rows (keys : KeySet) : ∀ forest : List OrgNode,
    (rows keys forest).map some = (rowAddresses keys forest).map (rowAt? keys forest)
  | [] => rfl
  | ⟨info, children⟩ :: rest => by
    have hchildren := map_some_rows keys children
    have hrest := map_some_rows keys rest
    let t : OrgNode := ⟨info, children⟩
    have hbelow : (rowsBelow keys t).map some =
        (addressesBelow keys t).map fun a => rowAt? keys (t :: rest) (0 :: a) := by
      unfold rowsBelow addressesBelow
      split
      · refine hchildren.trans (List.map_congr_left fun address h => ?_)
        obtain ⟨i, below, rfl⟩ := exists_cons_of_mem_rowAddresses h
        exact (rowAt?_below t rest i below).symm
      · rfl
    have hbeside : (rows keys rest).map some =
        (rowAddresses keys rest).map fun a => rowAt? keys (t :: rest) (Tree.besideFirst a) := by
      refine hrest.trans (List.map_congr_left fun address h => ?_)
      obtain ⟨i, below, rfl⟩ := exists_cons_of_mem_rowAddresses h
      exact (rowAt?_beside t rest i below).symm
    rw [rows_cons, rowAddresses_cons, List.map_cons, List.map_cons, List.map_append, List.map_append, List.map_map,
      List.map_map, hbelow, hbeside]
    rfl

/-- The row of every node in sight, in pre-order. -/
theorem rows_eq (keys : KeySet) (forest : List OrgNode) :
    rows keys forest = (rowAddresses keys forest).filterMap (rowAt? keys forest) := by
  have h := congrArg (List.filterMap id) (map_some_rows keys forest)
  simpa [List.filterMap_map, Function.comp_def] using h

/-- The rows below a node, once it is open: those of all nodes there to which only open ones lead. -/
def rowsUnder (keys : KeySet) (n : OrgNode) : List Row :=
  (rowAddresses keys n.children).filterMap (rowAt? keys n.children)

theorem rowsUnder_eq (keys : KeySet) (n : OrgNode) : rowsUnder keys n = rows keys n.children :=
  (rows_eq keys n.children).symm

/-- Every row has its address. -/
theorem exists_address {i : Nat} {r : Row} (h : (rows keys forest)[i]? = some r) :
    ∃ address above, (rowAddresses keys forest)[i]? = some address ∧
      Tree.lineage? forest address = some (r.node :: above) := by
  have hi := congrArg (·[i]?) (map_some_rows keys forest)
  simp only [List.getElem?_map, h, Option.map_some] at hi
  obtain ⟨address, haddress, hrow⟩ := Option.map_eq_some_iff.1 hi.symm
  refine ⟨address, ?_⟩
  unfold rowAt? at hrow
  split at hrow
  · rename_i n above hlineage
    obtain rfl := Option.some.inj hrow
    exact ⟨above, haddress, hlineage⟩
  · cases hrow

/-! ## The row of the parent -/

/-- Above a node's row stands that of its parent, and between the two there are only deeper ones. -/
theorem take_rowAddresses_below : ∀ {forest : List OrgNode} {i k : Nat} {up : List Nat}, up ≠ [] →
    (rowAddresses keys forest)[i]? = some (up ++ [k]) →
      ∃ before between, (rowAddresses keys forest).take i = before ++ up :: between ∧
        ∀ address ∈ between, up.length < address.length
  | t :: rest, 0, k, up, hup, h => by
    rw [rowAddresses_cons, List.getElem?_cons_zero, Option.some.injEq] at h
    -- The first row is that of a root.
    have hlength := congrArg List.length h
    rw [List.length_append, List.length_singleton, List.length_singleton] at hlength
    exact absurd (List.length_eq_zero_iff.1 (by omega)) hup
  | ⟨info, children⟩ :: rest, i + 1, k, up, hup, h => by
    obtain ⟨j, up, rfl⟩ := List.exists_cons_of_ne_nil hup
    rw [rowAddresses_cons, List.getElem?_cons_succ, List.getElem?_append] at h
    rw [rowAddresses_cons, List.take_succ_cons, List.take_append]
    split at h
    · -- The row is below the first root.
      rename_i hlt
      rw [List.getElem?_map] at h
      obtain ⟨address, haddress, heq⟩ := Option.map_eq_some_iff.1 h
      obtain ⟨rfl, rfl⟩ := List.cons.inj heq
      rw [Nat.sub_eq_zero_of_le (Nat.le_of_lt hlt), List.take_zero, List.append_nil, ← List.map_take]
      have hbelow : addressesBelow keys ⟨info, children⟩ = rowAddresses keys children := by
        unfold addressesBelow at haddress ⊢
        split at haddress
        · rename_i hopen
          exact if_pos hopen
        · cases haddress
      rw [hbelow] at haddress ⊢
      cases up with
      | nil =>
        refine ⟨[], _, rfl, fun address hmem => ?_⟩
        obtain ⟨below, hbelow, rfl⟩ := List.mem_map.1 hmem
        obtain ⟨i, below, rfl⟩ := exists_cons_of_mem_rowAddresses (List.mem_of_mem_take hbelow)
        simp
      | cons j up =>
        obtain ⟨before, between, htake, hdeeper⟩ := take_rowAddresses_below (List.cons_ne_nil j up) haddress
        refine ⟨[0] :: before.map (0 :: ·), between.map (0 :: ·), ?_, fun address hmem => ?_⟩
        · rw [htake, List.map_append, List.map_cons, List.cons_append]
        · obtain ⟨below, hbelow, rfl⟩ := List.mem_map.1 hmem
          exact Nat.succ_lt_succ (hdeeper below hbelow)
    · -- The row is beside the first root, and so is that of the parent.
      rename_i hle
      rw [List.getElem?_map] at h
      obtain ⟨address, haddress, heq⟩ := Option.map_eq_some_iff.1 h
      obtain ⟨i', below, rfl⟩ := exists_cons_of_mem_rowAddresses (List.mem_of_getElem? haddress)
      obtain ⟨rfl, rfl⟩ := List.cons.inj heq
      obtain ⟨before, between, htake, hdeeper⟩ := take_rowAddresses_below (List.cons_ne_nil i' up) haddress
      rw [List.take_of_length_le (Nat.le_of_not_lt hle), ← List.map_take, htake]
      refine ⟨[0] :: ((addressesBelow keys ⟨info, children⟩).map (0 :: ·) ++ before.map Tree.besideFirst),
        between.map Tree.besideFirst, ?_, fun address hmem => ?_⟩
      · rw [List.map_append, List.map_cons, List.cons_append, List.append_assoc]
        rfl
      · obtain ⟨other, hother, rfl⟩ := List.mem_map.1 hmem
        rw [Tree.besideFirst, List.length_modifyHead]
        exact hdeeper other hother

end Forest

/-! ## Levels -/

/-- Levels count ancestors. -/
def Leveled (forest : List OrgNode) : Prop :=
  ∀ address n above, Tree.lineage? forest address = some (n :: above) → n.label.level = above.length

theorem length_builtLineage (names : CorpNames) (above : Owner) (place : Place) (ups : List RawNode) :
    (builtLineage names above place ups).length = ups.length := by
  induction ups with
  | nil => rfl
  | cons n ups ih => rw [builtLineage, List.length_cons, List.length_cons, ih]

theorem leveled_buildForest (forest : List RawNode) : Leveled (buildForest forest) := by
  intro address n above h
  rw [lineage?_buildForest] at h
  obtain ⟨lineage, -, hbuilt⟩ := Option.map_eq_some_iff.1 h
  cases lineage with
  | nil => cases hbuilt
  | cons m ups =>
    obtain ⟨rfl, rfl⟩ := List.cons.inj hbuilt
    rw [label_buildNode, length_builtLineage]
    exact congrArg Place.level (placeBelow_root ups)

/-- What is left of a forest has the levels it had. -/
theorem Leveled.searchForest {forest : List OrgNode} (h : Leveled forest) (search : String) :
    Leveled (searchForest forest search) := by
  unfold OrgConsole.searchForest
  split
  · exact h
  · intro address n above hlineage
    have hlabels := Tree.labels_lineage?_prune (p := (·.isHit search)) forest address
    rw [hlineage, Option.map_some, eq_comm] at hlabels
    obtain ⟨lineage, horigin, hmap⟩ := Option.map_eq_some_iff.1 hlabels
    cases lineage with
    | nil => cases hmap
    | cons m ups =>
      obtain ⟨hlabel, hups⟩ := List.cons.inj hmap
      rw [← hlabel, h _ m ups horigin]
      simpa using congrArg List.length hups

/-- Levels grow on the way down. -/
theorem Leveled.level_lt {forest : List OrgNode} (h : Leveled forest) {n : OrgNode}
    (hn : n ∈ Tree.allSubtrees forest) {i : NodeInfo} (hi : i ∈ Tree.labels n.children) : n.label.level < i.level := by
  obtain ⟨address, above, hlineage⟩ := Tree.exists_lineage forest hn
  obtain ⟨m, hm, rfl⟩ := List.mem_map.1 hi
  obtain ⟨below, between, hbelow⟩ := Tree.exists_lineage n.children hm
  have hdown := Tree.lineage?_append hlineage below
  rw [hbelow, Option.map_some, List.cons_append] at hdown
  rw [h _ _ _ hlineage, h _ _ _ hdown, List.length_append, List.length_cons]
  omega

/-- The levels of a built forest stay below its depth. -/
theorem level_lt_depth {forest : List RawNode} {i : NodeInfo} (hi : i ∈ Tree.labels (buildForest forest)) :
    i.level < Tree.depth forest := by
  obtain ⟨n, hn, rfl⟩ := List.mem_map.1 hi
  obtain ⟨address, above, hlineage⟩ := Tree.exists_lineage _ hn
  rw [leveled_buildForest forest _ _ _ hlineage]
  have hlength := Tree.length_lineage? hlineage
  rw [lineage?_buildForest] at hlineage
  obtain ⟨lineage, hraw, -⟩ := Option.map_eq_some_iff.1 hlineage
  have hdepth := Tree.length_le_depth hraw
  rw [List.length_cons] at hlength
  omega

/-- In a leveled forest the rows have the levels of their addresses. -/
theorem Leveled.level_rows {keys : KeySet} {forest : List OrgNode} (h : Leveled forest) :
    (Forest.rows keys forest).map (·.node.label.level + 1) = (Forest.rowAddresses keys forest).map List.length := by
  have hrows := congrArg (List.map (Option.map fun r : Forest.Row => r.node.label.level + 1))
    (Forest.map_some_rows keys forest)
  rw [List.map_map, List.map_map] at hrows
  refine List.map_injective_iff.2 (fun _ _ => Option.some.inj) ?_
  rw [List.map_map, List.map_map]
  refine hrows.trans (List.map_congr_left fun address haddress => ?_)
  have hsight := (List.mem_filter.1 haddress).2
  unfold Forest.inSight at hsight
  split at hsight
  · rename_i n above hlineage
    have hlength := Tree.length_lineage? hlineage
    rw [List.length_cons] at hlength
    simp only [Function.comp_apply, Forest.rowAt?, hlineage, Option.map_some, h address n above hlineage, hlength]
  · cases hsight

end OrgConsole
