import Std.Data.TreeSet.Lemmas
import OrgConsole.Proofs.Forest.InSight
/-!
# Everything in sight

The keys of the nodes with children are looked for from the roots down, and the search for them ends at
the first node that lies too deep. A forest that is nowhere too deep gives up all of its keys, and with
those expanded every node has a row.
-/

namespace OrgConsole

/-! ## Keys -/

/-- No node is too deep for the keys to be found; levels are numbers of 64 bits. -/
def Shallow (forest : List OrgNode) : Prop :=
  ∀ i ∈ Tree.labels forest, i.level < Forest.unlimitedDepth

theorem Shallow.searchForest {forest : List OrgNode} (h : Shallow forest) (search : String) :
    Shallow (searchForest forest search) :=
  fun i hi => h i ((labels_searchForest_sublist forest search).subset hi)

namespace Forest

theorem allKeysAbove_cons (depth : Nat) (n : OrgNode) (rest : List OrgNode) :
    allKeysAbove depth (n :: rest) =
      (if n.label.level < depth && n.hasChildren then n.label.key :: allKeysAbove depth n.children else []) ++
        allKeysAbove depth rest := by
  cases n
  rw [allKeysAbove, keysAbove, Tree.hasChildren]

/-- The search for keys ends at the first node that is too deep. That loses nothing where all below such a node is
too deep as well. -/
theorem allKeysAbove_eq {depth : Nat} : ∀ {forest : List OrgNode},
    (∀ n ∈ Tree.allSubtrees forest, ∀ i ∈ Tree.labels n.children, i.level < depth → n.label.level < depth) →
      allKeysAbove depth forest =
        ((Tree.allSubtrees forest).filter fun n => n.label.level < depth && n.hasChildren).map (·.label.key)
  | [], _ => rfl
  | ⟨info, children⟩ :: rest, h => by
    rw [Tree.allSubtrees_cons, List.forall_mem_cons, List.forall_mem_append] at h
    obtain ⟨hroot, hbelow, hbeside⟩ := h
    have hchildren := allKeysAbove_eq hbelow
    have hrest := allKeysAbove_eq hbeside
    rw [allKeysAbove_cons, Tree.allSubtrees_cons, List.filter_cons, List.filter_append, hrest]
    by_cases hlevel : info.level < depth
    · cases children with
      | nil => simp [Tree.hasChildren, Tree.allSubtrees]
      | cons child others => simp [Tree.hasChildren, hlevel, hchildren]
    · have hdeep : (Tree.allSubtrees children).filter (fun n => n.label.level < depth && n.hasChildren) = [] := by
        refine List.filter_eq_nil_iff.2 fun n hn => ?_
        have hn_level := mt (hroot n.label (List.mem_map_of_mem hn)) hlevel
        simp [hn_level]
      simp [hlevel, hdeep]

theorem contains_defaultExpanded_iff {depth : Nat} {forest : List OrgNode} {key : String}
    (h : ∀ n ∈ Tree.allSubtrees forest, ∀ i ∈ Tree.labels n.children, i.level < depth → n.label.level < depth) :
    (defaultExpanded forest depth).contains key = true ↔
      ∃ n ∈ Tree.allSubtrees forest, n.hasChildren = true ∧ n.label.level < depth ∧ n.label.key = key := by
  rw [defaultExpanded, Std.TreeSet.contains_ofList, allKeysAbove_eq h, List.contains_iff_mem]
  simp only [List.mem_map, List.mem_filter, Bool.and_eq_true, decide_eq_true_eq, and_assoc, and_left_comm]

/-- In a forest that is nowhere too deep, the keys of all nodes with children are found. -/
theorem contains_parentKeys_iff {forest : List OrgNode} (h : Shallow forest) {key : String} :
    (parentKeys forest).contains key = true ↔
      ∃ n ∈ Tree.allSubtrees forest, n.hasChildren = true ∧ n.label.key = key := by
  have hlevel : ∀ n ∈ Tree.allSubtrees forest, n.label.level < unlimitedDepth :=
    fun n hn => h n.label (List.mem_map_of_mem hn)
  rw [parentKeys, contains_defaultExpanded_iff fun n hn _ _ _ => hlevel n hn]
  refine exists_congr fun n => and_congr_right fun hn => ?_
  rw [and_iff_right (hlevel n hn)]

theorem insertMany_toList (keys keys' : KeySet) : keys.insertMany keys' = keys.insertMany keys'.toList := by
  unfold Std.TreeSet.insertMany Std.TreeMap.insertManyIfNewUnit Std.DTreeMap.Const.insertManyIfNewUnit
    Std.DTreeMap.Internal.Impl.Const.insertManyIfNewUnit
  simp only [Std.TreeSet.forIn_eq_forIn_toList]

theorem contains_insertMany (keys keys' : KeySet) (key : String) :
    (keys.insertMany keys').contains key = (keys.contains key || keys'.contains key) := by
  rw [insertMany_toList, Std.TreeSet.contains_insertMany_list, Std.TreeSet.contains_toList]

/-! ## Rows -/

/-- With every node open that has children, the rows are the nodes in pre-order. -/
theorem nodes_rows_of_open {keys : KeySet} : ∀ {forest : List OrgNode},
    (∀ n ∈ Tree.allSubtrees forest, n.hasChildren = true → keys.contains n.label.key = true) →
      (rows keys forest).map (·.node) = Tree.allSubtrees forest
  | [], _ => rfl
  | ⟨info, children⟩ :: rest, h => by
    rw [Tree.allSubtrees_cons, List.forall_mem_cons, List.forall_mem_append] at h
    have hchildren := nodes_rows_of_open h.2.1
    have hrest := nodes_rows_of_open h.2.2
    have hbelow : (rowsBelow keys ⟨info, children⟩).map (·.node) = Tree.allSubtrees children := by
      unfold rowsBelow
      split
      · exact hchildren
      · -- A node that is not open has nothing below it.
        rename_i hclosed
        cases children with
        | nil => rfl
        | cons child others => exact absurd (h.1 rfl) hclosed
    rw [rows_cons, Tree.allSubtrees_cons, List.map_cons, List.map_append, hbelow, hrest]

end Forest

/-! ## Built forests -/

theorem shallow_buildForest {forest : List RawNode} (h : Tree.depth forest ≤ Forest.unlimitedDepth) :
    Shallow (buildForest forest) :=
  fun _ hi => Nat.lt_of_lt_of_le (level_lt_depth hi) h

end OrgConsole
