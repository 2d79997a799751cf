import OrgConsole.Forest.Node
import OrgConsole.Text.CaseFold
/-!
# Searching a forest

A search keeps the nodes whose title has the text in it, upper and lower case alike, and their
ancestors. The empty search keeps everything.
-/

namespace OrgConsole

/-! ## Texts within texts -/

namespace Text

/-- `part` stands somewhere in the text. -/
def occursIn (part : List Char) : List Char → Bool
  | [] => part.isEmpty
  | c :: rest => part.isPrefixOf (c :: rest) || occursIn part rest

/-- `search` stands somewhere in `text`, upper and lower case alike. -/
def matchesIgnoringCase (text search : String) : Bool :=
  occursIn (lowercase search.toList) (lowercase text.toList)

theorem occursIn_iff {part text : List Char} : occursIn part text = true ↔ part <:+: text := by
  induction text with
  | nil => simp [occursIn]
  | cons c rest ih =>
    simp only [occursIn, Bool.or_eq_true, List.isPrefixOf_iff_prefix, ih]
    exact List.infix_cons_iff.symm

end Text

/-! ## Nodes -/

/-- A node's title has the search text in it. -/
def NodeInfo.isHit (search : String) (i : NodeInfo) : Bool :=
  Text.matchesIgnoringCase i.title search

/-- The forest pruned to a search. -/
def searchForest (forest : List OrgNode) (search : String) : List OrgNode :=
  if search.isEmpty then forest else Tree.prune (·.isHit search) forest

theorem searchForest_of_ne {search : String} (h : search ≠ "") (forest : List OrgNode) :
    searchForest forest search = Tree.prune (·.isHit search) forest :=
  if_neg fun hempty => h (String.isEmpty_iff.1 hempty)

end OrgConsole
