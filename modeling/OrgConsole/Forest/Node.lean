import OrgConsole.Forest.Payload
/-!
# Nodes of the display forest

A display node has a key that is unique across corporations and departments even where the backend
uses a number for both, knows who owns it, and knows where it hangs.
-/

namespace OrgConsole

/-- What the console shows of one node. -/
structure NodeInfo where
  key : String
  id : String
  parentId : Option String
  title : String
  kind : NodeKind
  /-- The owning corporation; a corporation owns itself. -/
  corpId : String
  corpName : String
  /-- How many ancestors the node has. -/
  level : Nat
  /-- The titles from the root down to this node, with slashes between them. -/
  path : String
  /-- A corporation cannot be picked as a department. -/
  disabled : Bool
deriving DecidableEq, Repr, Inhabited

/-- A node of the display forest. -/
abbrev OrgNode := Tree NodeInfo

/-- The key of a corporation. -/
def corpKey (id : String) : String := "org_" ++ id

/-- The key of a department. -/
def deptKey (id : String) : String := "dept_" ++ id

/-- The key of a node of a kind. -/
def nodeKey : NodeKind → String → String
  | .corp => corpKey
  | .dept => deptKey

def NodeInfo.isCorp (i : NodeInfo) : Bool :=
  i.kind = .corp

def Tree.hasChildren {α : Type} (t : Tree α) : Bool :=
  !t.children.isEmpty

end OrgConsole
