import OrgConsole.Forest.Lookup
import OrgConsole.Proofs.Forest.Rows
import OrgConsole.Proofs.Forest.Searching
/-!
# Looking up what a search leaves

The nodes that a search leaves are those of the forest that have a hit at or below them, pruned one by one.
Where no key repeats a node is found by being there, wherever it stands. So to look a key up in what a
search leaves is to look it up in the whole forest and to prune what is found.
-/

namespace OrgConsole

namespace Tree

variable {α : Type} (p : α → Bool)

/-- A tree with a hit is left with what is left of its children, and a tree without one goes. -/
theorem prune?_eq (t : Tree α) : t.prune? p = if t.hasHit p then some ⟨t.label, prune p t.children⟩ else none := by
  have hfalse := hasHit_eq_false_iff p t
  obtain ⟨label, children⟩ := t
  rw [prune?]
  cases hhit : hasHit p ⟨label, children⟩ with
  | false => simp [hfalse.1 hhit]
  | true =>
    have hkept : ¬(prune p children = [] ∧ p label = false) := fun h => by simp [hfalse.2 h] at hhit
    simp [hkept]

theorem prune?_eq_some_iff {t t' : Tree α} :
    t.prune? p = some t' ↔ t.hasHit p = true ∧ t' = ⟨t.label, prune p t.children⟩ := by
  rw [prune?_eq]
  split
  · rename_i hhit
    rw [Option.some.injEq, and_iff_right hhit, eq_comm]
  · rename_i hhit
    exact iff_of_false nofun fun h => hhit h.1

/-- What pruning leaves of a forest has the nodes of the forest in their order, each pruned by itself. -/
theorem allSubtrees_prune : ∀ forest : List (Tree α), allSubtrees (prune p forest) = (allSubtrees forest).filterMap (prune? p)
  | [] => rfl
  | ⟨label, children⟩ :: rest => by
    have hchildren := allSubtrees_prune children
    have hrest := allSubtrees_prune rest
    rw [prune_cons, allSubtrees_cons, List.filterMap_cons, List.filterMap_append, prune?_eq]
    split
    · rw [allSubtrees_cons, hchildren, hrest]
    · rename_i hhit
      rw [Bool.not_eq_true, hasHit_eq_false_iff] at hhit
      obtain ⟨hnone, -⟩ : prune p children = [] ∧ p label = false := hhit
      rw [← hchildren, hnone, hrest]
      rfl

end Tree

variable {forest : List OrgNode} {search : String}

/-- Where no key repeats, every node is found under its key. -/
theorem findNode?_eq_some_iff (h : DistinctKeys forest) {key : String} {n : OrgNode} :
    findNode? forest key = some n ↔ n ∈ Tree.allSubtrees forest ∧ n.label.key = key := by
  rw [findNode?_eq]
  constructor
  · intro hfind
    exact ⟨List.mem_of_find?_eq_some hfind, by simpa using List.find?_some hfind⟩
  · rintro ⟨hn, rfl⟩
    obtain ⟨m, hm⟩ : ∃ m, (Tree.allSubtrees forest).find? (fun m => m.label.key = n.label.key) = some m :=
      Option.isSome_iff_exists.1 (List.find?_isSome.2 ⟨n, hn, by simp⟩)
    have hkey : m.label.key = n.label.key := by simpa using List.find?_some hm
    have hdistinct : ((Tree.allSubtrees forest).map (·.label.key)).Nodup := by
      unfold DistinctKeys Tree.labels at h
      rwa [List.map_map] at h
    rw [hm, List.inj_on_of_nodup_map hdistinct (List.mem_of_find?_eq_some hm) hn hkey]

/-- The nodes that a search leaves, pruned as they are. -/
theorem mem_allSubtrees_searchForest (hsearch : search ≠ "") {n : OrgNode} :
    n ∈ Tree.allSubtrees (searchForest forest search) ↔
      ∃ whole ∈ Tree.allSubtrees forest, whole.hasHit (·.isHit search) = true ∧
        n = ⟨whole.label, searchForest whole.children search⟩ := by
  simp only [searchForest_of_ne hsearch, Tree.allSubtrees_prune, List.mem_filterMap, Tree.prune?_eq_some_iff]

/-- Where no key repeats, a search leaves a node to be found exactly if it is found without the search and has a hit
at or below it. -/
theorem findNode?_searchForest (h : DistinctKeys forest) (hsearch : search ≠ "") {key : String} {n : OrgNode} :
    findNode? (searchForest forest search) key = some n ↔
      ∃ whole, findNode? forest key = some whole ∧ whole.hasHit (·.isHit search) = true ∧
        n = ⟨whole.label, searchForest whole.children search⟩ := by
  rw [findNode?_eq_some_iff (h.searchForest search), mem_allSubtrees_searchForest hsearch]
  simp only [findNode?_eq_some_iff h]
  constructor
  · rintro ⟨⟨whole, hwhole, hhit, rfl⟩, hkey⟩
    exact ⟨whole, ⟨hwhole, hkey⟩, hhit, rfl⟩
  · rintro ⟨whole, ⟨hwhole, hkey⟩, hhit, rfl⟩
    exact ⟨⟨whole, hwhole, hhit, rfl⟩, hkey⟩

/-- The whole node of which a search, the empty one too, leaves a node. -/
theorem exists_whole (h : DistinctKeys forest) (search : String) {n : OrgNode}
    (hn : n ∈ Tree.allSubtrees (searchForest forest search)) :
    ∃ whole, findNode? forest n.label.key = some whole ∧ n = ⟨whole.label, searchForest whole.children search⟩ := by
  by_cases hsearch : search = ""
  · subst hsearch
    refine ⟨n, (findNode?_eq_some_iff h).2 ⟨hn, rfl⟩, ?_⟩
    cases n
    rfl
  · obtain ⟨whole, hwhole, -, rfl⟩ := (mem_allSubtrees_searchForest hsearch).1 hn
    exact ⟨whole, (findNode?_eq_some_iff h).2 ⟨hwhole, rfl⟩, rfl⟩

end OrgConsole
