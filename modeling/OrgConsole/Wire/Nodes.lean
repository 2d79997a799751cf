import OrgConsole.Forest.Node
import OrgConsole.Wire.Records
/-!
# Nodes

The organization is read as nodes that nest. Display nodes are only ever written.
-/

namespace OrgConsole.Wire

/-! ## The backend's nodes -/

/-- The names of the kinds. -/
def nodeKinds : List (String × NodeKind) :=
  [("corp", .corp), ("dept", .dept)]

def kindName : NodeKind → String
  | .corp => "corp"
  | .dept => "dept"

def nodeKind (room : Nat) : Json → Reading NodeKind :=
  variant nodeKinds room

/-- The layout of a node whose children are read by `children`. -/
def nodeLayout (children : Nat → Json → Reading (List RawNode)) : Layout RawNode where
  title := "RawOrgNode"
  blank := RawNode.corp "" ""
  fields := [
    .of "id" true identifier fun x r => { r with label.id := x },
    .of "name" true (flat string) fun x r => { r with label.name := x },
    .of "node_type" true nodeKind fun x r => { r with label.kind := x },
    .of "corp_id" false optionalId fun x r => { r with label.corpId := x },
    .of "dept_id" false optionalId fun x r => { r with label.deptId := x },
    .of "business_path" false optionalString fun x r => { r with label.businessPath := x },
    .of "children" false children fun x r => { r with children := x }]

/-- Read a node: its children lie two levels further in. -/
def node : (room : Nat) → Json → Reading RawNode
  | room + 2, v => (nodeLayout fun _ => list (fun _ => node room) (room + 1)).read (room + 2) v
  | room, v => (nodeLayout fun room => list (fun _ _ => .error .malformed) room).read room v

def nodes (room : Nat) : Json → Reading (List RawNode) :=
  list node room

mutual

/-- The JSON form of a node. -/
def nodeJson : RawNode → Json
  | ⟨p, children⟩ => .object [
    ("id", .string p.id), ("name", .string p.name), ("node_type", .string (kindName p.kind)),
    ("corp_id", nullable p.corpId), ("dept_id", nullable p.deptId), ("business_path", nullable p.businessPath),
    ("children", .array (nodesJson children))]

/-- The JSON forms of nodes. -/
def nodesJson : List RawNode → List Json
  | [] => []
  | n :: rest => nodeJson n :: nodesJson rest

end

/-! ## Display nodes -/

mutual

/-- The JSON form of a display node. -/
def orgNodeJson : OrgNode → Json
  | ⟨i, children⟩ => .object [
    ("key", .string i.key), ("id", .string i.id), ("parent_id", nullable i.parentId),
    ("title", .string i.title), ("kind", .string (kindName i.kind)), ("corp_id", .string i.corpId),
    ("corp_name", .string i.corpName), ("level", .number (.integer i.level)), ("path", .string i.path),
    ("disabled", .bool i.disabled), ("children", .array (orgNodesJson children))]

/-- The JSON forms of display nodes. -/
def orgNodesJson : List OrgNode → List Json
  | [] => []
  | n :: rest => orgNodeJson n :: orgNodesJson rest

end

end OrgConsole.Wire
