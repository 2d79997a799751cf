import OrgConsole.Forest.Build
import OrgConsole.Proofs.Tree.Address
/-!
# Building along lineages

The display node at an address is built from the payload at the same address. What it gets from
above, its place and its owner, is threaded down from the root through its ancestors and through
nothing else.
-/

namespace OrgConsole

/-- The owner that nodes below a lineage get. -/
def ownerBelow (names : CorpNames) (above : Owner) (lineage : List RawNode) : Owner :=
  lineage.foldr (fun n owner => n.label.owner names owner) above

/-- The place of nodes below a lineage. -/
def placeBelow (place : Place) (lineage : List RawNode) : Place :=
  lineage.foldr (fun n place => n.label.childPlace place) place

/-- The display nodes of a lineage. -/
def builtLineage (names : CorpNames) (above : Owner) (place : Place) : List RawNode → List OrgNode
  | [] => []
  | n :: ups =>
    buildNode names (ownerBelow names above ups) (placeBelow place ups) n :: builtLineage names above place ups

theorem buildNodes_eq_map (names : CorpNames) (above : Owner) (place : Place) (forest : List RawNode) :
    buildNodes names above place forest = forest.map (buildNode names above place) := by
  induction forest with
  | nil => rfl
  | cons n rest ih => rw [buildNodes, List.map_cons, ih]

theorem label_buildNode (names : CorpNames) (above : Owner) (place : Place) (n : RawNode) :
    (buildNode names above place n).label = n.label.info place (n.label.owner names above) := by
  cases n
  rw [buildNode]

theorem children_buildNode (names : CorpNames) (above : Owner) (place : Place) (n : RawNode) :
    (buildNode names above place n).children =
      buildNodes names (n.label.owner names above) (n.label.childPlace place) n.children := by
  cases n
  rw [buildNode]

theorem builtLineage_concat (names : CorpNames) (above : Owner) (place : Place) (lineage : List RawNode) (n : RawNode) :
    builtLineage names above place (lineage ++ [n]) =
      builtLineage names (n.label.owner names above) (n.label.childPlace place) lineage ++
        [buildNode names above place n] := by
  induction lineage with
  | nil => rfl
  | cons m ups ih => simp [builtLineage, ownerBelow, placeBelow, ih]

theorem lineage?_buildNodes (names : CorpNames) (above : Owner) (place : Place) (forest : List RawNode)
    (address : List Nat) :
    Tree.lineage? (buildNodes names above place forest) address =
      (Tree.lineage? forest address).map (builtLineage names above place) := by
  induction address generalizing above place forest with
  | nil => rfl
  | cons i rest ih =>
    rw [Tree.lineage?, Tree.lineage?, buildNodes_eq_map, List.getElem?_map]
    cases forest[i]? with
    | none => rfl
    | some n =>
      -- The root stands last in the lineage, and all that is below it starts from what it hands down.
      simp only [Option.map_some, Option.bind_some, children_buildNode, ih, Option.map_map]
      congr 1
      funext lineage
      exact (builtLineage_concat names above place lineage n).symm

/-- The lineages of the display forest are those of the backend's forest, built. -/
theorem lineage?_buildForest (forest : List RawNode) (address : List Nat) :
    Tree.lineage? (buildForest forest) address =
      (Tree.lineage? forest address).map (builtLineage (corpNames forest) .nobody .root) :=
  lineage?_buildNodes _ _ _ _ _

end OrgConsole
