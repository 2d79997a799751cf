import OrgConsole.Proofs.Forest.Searching
import OrgConsole.Proofs.Text.LowerCase
/-!
# Titles that spell the search

A title may have the search text in it letter for letter and be no hit, because upper and lower case are
compared in the lower case of both, and a sigma that ends the search text may stand within a word of the
title. A search text finds all titles that spell it exactly if it settles its sigmas.
-/

namespace OrgConsole

/-- A node's title has the search text in it, letter for letter. -/
def NodeInfo.spells (search : String) (i : NodeInfo) : Bool :=
  Text.occursIn search.toList i.title.toList

/-- The nodes whose titles spell the search text are hits, and the search leaves them all. -/
structure FindsSpelled (search : String) (forest : List OrgNode) : Prop where
  hits : ∀ i ∈ Tree.labels forest, i.spells search = true → i.isHit search = true
  left : (Tree.labels (searchForest forest search)).filter (·.spells search) =
    (Tree.labels forest).filter (·.spells search)

theorem isHit_of_spells {search : String} (h : Text.settlesSigmas search.toList = true) {i : NodeInfo}
    (hi : i.spells search = true) : i.isHit search = true := by
  rw [NodeInfo.spells, Text.occursIn_iff] at hi
  obtain ⟨before, after, htitle⟩ := hi
  rw [NodeInfo.isHit, Text.matchesIgnoringCase, Text.occursIn_iff, ← htitle]
  exact Text.lowercase_infix_of_settles h before after

/-- Among nodes, of which those that spell the search are hits, they are found among the hits. -/
theorem filter_spells_filter_isHit {search : String} (h : Text.settlesSigmas search.toList = true)
    (is : List NodeInfo) : (is.filter (·.isHit search)).filter (·.spells search) = is.filter (·.spells search) := by
  rw [List.filter_filter]
  refine List.filter_congr fun i _ => ?_
  cases hspells : i.spells search with
  | false => rfl
  | true => rw [isHit_of_spells h hspells, Bool.and_self]

theorem findsSpelled_of_settles {search : String} (h : Text.settlesSigmas search.toList = true)
    (forest : List OrgNode) : FindsSpelled search forest := by
  refine ⟨fun i _ => isHit_of_spells h, ?_⟩
  by_cases hempty : search = ""
  · rw [hempty]
    rfl
  · rw [searchForest_of_ne hempty, ← filter_spells_filter_isHit h, Tree.filter_labels_prune,
      filter_spells_filter_isHit h]

/-- A search text finds all titles that spell it, in whatever forest, exactly if it settles which of its capital
sigmas end a word. -/
theorem finds_spelled_iff (search : String) :
    (∀ forest, FindsSpelled search forest) ↔ Text.settlesSigmas search.toList = true := by
  refine ⟨fun hfinds => ?_, findsSpelled_of_settles⟩
  by_contra hopen
  obtain ⟨before, after, hmissed⟩ := Text.exists_lowercase_not_infix (Bool.eq_false_iff.2 hopen)
  let title := String.ofList (before ++ search.toList ++ after)
  obtain ⟨i, hi, htitle⟩ : ∃ i ∈ Tree.labels (buildForest [.dept "d" title]), i.title = title :=
    ⟨_, List.mem_cons_self, rfl⟩
  have hspells : i.spells search = true := by
    rw [NodeInfo.spells, Text.occursIn_iff, htitle, String.toList_ofList]
    exact ⟨before, after, rfl⟩
  have hhit := (hfinds _).hits i hi hspells
  rw [NodeInfo.isHit, Text.matchesIgnoringCase, Text.occursIn_iff, htitle, String.toList_ofList] at hhit
  exact hmissed hhit

/-- The sigma ends the search text and is followed by a letter in the title. -/
theorem spelled_before_letter_missed :
    let forest := buildForest [.dept "d" "ΑΣΑ"]
    (Tree.labels forest).map (·.spells "ΑΣ") = [true] ∧ (Tree.labels forest).map (·.isHit "ΑΣ") = [false] ∧
      searchForest forest "ΑΣ" = [] ∧ ¬ FindsSpelled "ΑΣ" forest := by
  intro forest
  have hspells : ((Tree.labels forest).filter (·.spells "ΑΣ")).length = 1 := by decide +kernel
  have hnone : searchForest forest "ΑΣ" = [] := List.isEmpty_iff.1 (by decide +kernel)
  refine ⟨by decide +kernel, by decide +kernel, hnone, fun hfinds => ?_⟩
  rw [← hfinds.left, hnone] at hspells
  cases hspells

end OrgConsole
