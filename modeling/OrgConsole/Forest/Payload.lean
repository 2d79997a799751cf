import OrgConsole.Tree
/-!
# The organization as the backend sends it

The backend sends a forest of corporations and departments. A node names its owner and its
department only where it knows them.
-/

namespace OrgConsole

/-- A corporation or a department. -/
inductive NodeKind
  | corp
  | dept
deriving DecidableEq, Repr, Inhabited

/-- What the backend says about one node. -/
structure Payload where
  id : String
  name : String
  kind : NodeKind
  /-- The owning corporation, where the backend knows it. -/
  corpId : Option String
  /-- The department's own id, where it differs from the node's. -/
  deptId : Option String
  /-- Names from the corporation down, with slashes between them. -/
  businessPath : Option String
deriving DecidableEq, Repr, Inhabited

/-- A node of the backend's forest. -/
abbrev RawNode := Tree Payload

namespace RawNode

/-- A corporation with nothing below it. -/
def corp (id name : String) : RawNode :=
  ⟨⟨id, name, .corp, none, none, none⟩, []⟩

/-- A department with nothing below it. -/
def dept (id name : String) : RawNode :=
  ⟨⟨id, name, .dept, none, none, none⟩, []⟩

def withChildren (children : List RawNode) (n : RawNode) : RawNode :=
  { n with children := children }

def withCorpId (corpId : String) (n : RawNode) : RawNode :=
  { n with label.corpId := some corpId }

def withBusinessPath (path : String) (n : RawNode) : RawNode :=
  { n with label.businessPath := some path }

end RawNode

end OrgConsole
