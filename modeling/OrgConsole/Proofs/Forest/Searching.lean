import OrgConsole.Forest.Build
import OrgConsole.Forest.Search
import OrgConsole.Proofs.Tree.Pruning
/-!
# What a search leaves

A search leaves the places whose node is a hit or has a hit below it, and nothing else. They hang as
they did and show what they showed. So a second search for the same text finds nothing to take away.
-/

namespace OrgConsole

/-- The empty search leaves everything. Any other leaves the places with a hit at or below them, each
once and where it was; searching again changes nothing; and nothing is left exactly if nothing is a
hit. -/
theorem searchForest_exact (forest : List OrgNode) :
    searchForest forest "" = forest ∧
      ∀ search, search ≠ "" →
        (∃ origin, Tree.Restricts (searchForest forest search) forest (Tree.hasHitAt (·.isHit search) forest) origin) ∧
        Tree.sizes (searchForest forest search) =
          ((Tree.addresses forest).filter (Tree.hasHitAt (·.isHit search) forest)).length ∧
        searchForest (searchForest forest search) search = searchForest forest search ∧
        (searchForest forest search = [] ↔ ∀ i ∈ Tree.labels forest, i.isHit search = false) := by
  refine ⟨rfl, fun search hsearch => ?_⟩
  simp only [searchForest_of_ne hsearch]
  have hrestricts := Tree.restricts_prune (·.isHit search) forest
  exact ⟨⟨_, hrestricts⟩, hrestricts.sizes_eq, Tree.prune_prune _ forest, Tree.prune_eq_nil_iff _ forest⟩

/-- Neither of the two nodes above the hit is one itself, and the hit has no children. -/
theorem search_leaves_way_to_hit :
    let eng := (RawNode.dept "d1" "Eng").withChildren [.dept "d2" "Data", .dept "d3" "Platform"]
    let forest := buildForest [(RawNode.corp "c1" "Acme").withChildren [.dept "d4" "Sales", eng]]
    "FORM" ≠ "" ∧
      (∃ origin, Tree.Restricts (searchForest forest "FORM") forest (Tree.hasHitAt (·.isHit "FORM") forest) origin) ∧
      Tree.sizes (searchForest forest "FORM") = 3 ∧ searchForest forest "FORM" ≠ [] := by
  intro eng forest
  have hsearch : "FORM" ≠ "" := by decide
  obtain ⟨-, hexact⟩ := searchForest_exact forest
  obtain ⟨hrestricts, hsizes, -, hnone⟩ := hexact "FORM" hsearch
  refine ⟨hsearch, hrestricts, hsizes.trans (by decide +kernel), fun hempty => ?_⟩
  have hhit : ∃ i ∈ Tree.labels forest, i.isHit "FORM" = true := by decide +kernel
  obtain ⟨i, hi, htrue⟩ := hhit
  rw [hnone.1 hempty i hi] at htrue
  cases htrue

end OrgConsole
