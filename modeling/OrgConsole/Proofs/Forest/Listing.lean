import OrgConsole.Forest.Expansion
import OrgConsole.Forest.Search
import OrgConsole.Proofs.Forest.Lineage
/-!
# What a forest lists

Pruning and listing rows leave nodes out but bring in none and keep their order. The keys of a forest
that was built tell kind and id, so they do in whatever is left of it.
-/

namespace OrgConsole

/-- Pruning keeps the order of what it keeps. -/
theorem Tree.labels_prune_sublist {α : Type} (p : α → Bool) :
    ∀ forest : List (Tree α), (Tree.labels (Tree.prune p forest)).Sublist (Tree.labels forest)
  | [] => .refl _
  | ⟨label, children⟩ :: rest => by
    have hchildren := Tree.labels_prune_sublist p children
    have hrest := Tree.labels_prune_sublist p rest
    rw [Tree.prune, Tree.prune?, Tree.labels_cons]
    split
    · rename_i t ht
      split at ht
      · cases ht
      · cases ht
        rw [Tree.labels_cons]
        exact (hchildren.append hrest).cons_cons label
    · exact (hrest.trans (List.sublist_append_right _ _)).cons label

theorem labels_searchForest_sublist (forest : List OrgNode) (search : String) :
    (Tree.labels (searchForest forest search)).Sublist (Tree.labels forest) := by
  unfold searchForest
  split
  · exact .refl _
  · exact Tree.labels_prune_sublist _ forest

/-- The rows show nodes of the forest in order. -/
theorem Forest.nodes_rows_sublist (expanded : KeySet) :
    ∀ forest : List OrgNode, ((Forest.rows expanded forest).map (·.node)).Sublist (Tree.allSubtrees forest)
  | [] => .refl _
  | ⟨info, children⟩ :: rest => by
    have hchildren := Forest.nodes_rows_sublist expanded children
    have hrest := Forest.nodes_rows_sublist expanded rest
    rw [Forest.rows, Forest.rowsOf, Tree.allSubtrees_cons, List.cons_append, List.map_cons, List.map_append]
    split
    · exact (hchildren.append hrest).cons_cons _
    · exact (hrest.trans (List.sublist_append_right _ _)).cons_cons _

theorem Forest.labels_rows_sublist (expanded : KeySet) (forest : List OrgNode) :
    ((Forest.rows expanded forest).map (·.node.label)).Sublist (Tree.labels forest) := by
  have hlabels := (Forest.nodes_rows_sublist expanded forest).map (·.label)
  rwa [List.map_map] at hlabels

/-- No department has the key of a corporation. -/
theorem deptKey_ne_corpKey (departmentId corpId : String) : deptKey departmentId ≠ corpKey corpId := by
  intro h
  have := congrArg String.toList h
  simp [deptKey, corpKey] at this

/-- Every node's key is made of its kind and its id. -/
def Keyed (forest : List OrgNode) : Prop :=
  ∀ i ∈ Tree.labels forest, i.key = nodeKey i.kind i.id

theorem keyed_buildForest (forest : List RawNode) : Keyed (buildForest forest) := by
  intro i hi
  obtain ⟨m, hm, rfl⟩ := List.mem_map.1 hi
  obtain ⟨address, above, hlineage⟩ := Tree.exists_lineage _ hm
  rw [lineage?_buildForest] at hlineage
  obtain ⟨lineage, -, hbuilt⟩ := Option.map_eq_some_iff.1 hlineage
  cases lineage with
  | nil => cases hbuilt
  | cons n ups =>
    rw [builtLineage, List.cons.injEq] at hbuilt
    rw [← hbuilt.1, label_buildNode]
    rfl

theorem Keyed.searchForest {forest : List OrgNode} (h : Keyed forest) (search : String) :
    Keyed (searchForest forest search) :=
  fun i hi => h i ((labels_searchForest_sublist forest search).subset hi)

end OrgConsole
