import Std.Data.TreeSet
import OrgConsole.Forest.Node
/-!
# Expanded nodes and visible rows

A node is open when its key is in the set of expanded keys. The visible rows are the nodes that all
of their ancestors leave in sight, in pre-order.
-/

namespace OrgConsole

/-- A set of node keys. -/
abbrev KeySet := Std.TreeSet String compare

namespace Forest

mutual

/-- The keys of a node and those below it that have children and lie above `depth`; nothing is looked
for below a node that is not among them. -/
def keysAbove (depth : Nat) : OrgNode → List String
  | ⟨info, children⟩ =>
    if info.level < depth && !children.isEmpty then info.key :: allKeysAbove depth children else []

/-- The keys of a forest's nodes that have children and lie above `depth`. -/
def allKeysAbove (depth : Nat) : List OrgNode → List String
  | [] => []
  | n :: rest => keysAbove depth n ++ allKeysAbove depth rest

end

/-- What is expanded in a forest that has just been loaded. -/
def defaultExpanded (forest : List OrgNode) (depth : Nat) : KeySet :=
  Std.TreeSet.ofList (allKeysAbove depth forest) compare

/-- No forest is as deep as this. -/
def unlimitedDepth : Nat := UInt64.size - 1

/-- The keys of every node with children. -/
def parentKeys (forest : List OrgNode) : KeySet :=
  defaultExpanded forest unlimitedDepth

/-- A node in sight, open or not. -/
structure Row where
  node : OrgNode
  expanded : Bool
deriving Repr, Inhabited

mutual

/-- The rows of a node in sight. -/
def rowsOf (expanded : KeySet) : OrgNode → List Row
  | ⟨info, children⟩ =>
    ⟨⟨info, children⟩, expanded.contains info.key⟩ ::
      if expanded.contains info.key then rows expanded children else []

/-- The rows of a forest. -/
def rows (expanded : KeySet) : List OrgNode → List Row
  | [] => []
  | n :: rest => rowsOf expanded n ++ rows expanded rest

end

end Forest

end OrgConsole
