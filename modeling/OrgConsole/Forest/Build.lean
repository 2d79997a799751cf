import Std.Data.TreeMap
import OrgConsole.Forest.Node
import OrgConsole.Text.Basic
/-!
# Building the display forest

Every node of the backend's forest becomes one display node in the same place. A department belongs
to the corporation that it names, else to the one above it; the name of that corporation is looked up
among all corporations, else taken from above, else from the business path.
-/

namespace OrgConsole

/-- The names of corporations by their ids. -/
abbrev CorpNames := Std.TreeMap String String compare

/-- The name of every corporation in a forest; of several with one id, the last in pre-order. -/
def corpNames (forest : List RawNode) : CorpNames :=
  (Tree.labels forest).foldl (fun names p => if p.kind = .corp then names.insert p.id p.name else names) ∅

/-- The corporation that a part of the forest belongs to. -/
structure Owner where
  id : String
  name : String
deriving DecidableEq, Repr, Inhabited

/-- Above the roots there is no corporation. -/
def Owner.nobody : Owner := ⟨"", ""⟩

/-- Where a node hangs: its parent's id and path, and how many ancestors it has. -/
structure Place where
  parentId : Option String
  path : String
  level : Nat
deriving DecidableEq, Repr, Inhabited

/-- The place of a root. -/
def Place.root : Place := ⟨none, "", 0⟩

/-- A text cut at every slash. -/
def slashParts : List Char → List (List Char)
  | [] => [[]]
  | c :: rest =>
    match slashParts rest with
    | [] => [[c]]
    | part :: parts => if c = '/' then [] :: part :: parts else (c :: part) :: parts

/-- The first part of a business path that is not blank, trimmed. -/
def firstPart? (path : String) : Option String :=
  ((slashParts path.toList).map Text.trim).find? (!·.isEmpty) |>.map String.ofList

namespace Payload

/-- The owner of a department below `above`. -/
def deptOwner (names : CorpNames) (above : Owner) (p : Payload) : Owner :=
  let id := ((p.corpId.bind Text.nonBlank?).or (Text.nonBlank? above.id)).getD ""
  let name := (names[id]?.bind Text.nonBlank?).or
    ((Text.nonBlank? above.name).or (p.businessPath.bind firstPart?))
  ⟨id, name.getD ""⟩

/-- The owner of a node below `above`. -/
def owner (names : CorpNames) (above : Owner) (p : Payload) : Owner :=
  match p.kind with
  | .corp => ⟨p.id, p.name⟩
  | .dept => p.deptOwner names above

/-- The id that a node is known by. -/
def resolvedId (p : Payload) : String :=
  match p.kind with
  | .corp => p.id
  | .dept => (p.deptId.bind Text.nonBlank?).getD p.id

/-- The path of a node below `place`. -/
def pathBelow (place : Place) (p : Payload) : String :=
  if place.path.isEmpty then p.name else place.path ++ "/" ++ p.name

/-- The place of a node's children. -/
def childPlace (place : Place) (p : Payload) : Place :=
  ⟨some p.resolvedId, p.pathBelow place, place.level + 1⟩

/-- What the console shows of a node at `place` with its owner. -/
def info (place : Place) (owner : Owner) (p : Payload) : NodeInfo where
  key := nodeKey p.kind p.resolvedId
  id := p.resolvedId
  parentId := place.parentId
  title := p.name
  kind := p.kind
  corpId := owner.id
  corpName := owner.name
  level := place.level
  path := p.pathBelow place
  disabled := p.kind = .corp

end Payload

mutual

/-- The display node of a node at `place` below `above`. -/
def buildNode (names : CorpNames) (above : Owner) (place : Place) : RawNode → OrgNode
  | ⟨p, children⟩ =>
    let owner := p.owner names above
    ⟨p.info place owner, buildNodes names owner (p.childPlace place) children⟩

/-- The display nodes of siblings. -/
def buildNodes (names : CorpNames) (above : Owner) (place : Place) : List RawNode → List OrgNode
  | [] => []
  | n :: rest => buildNode names above place n :: buildNodes names above place rest

end

/-- The display forest of the backend's forest. -/
def buildForest (forest : List RawNode) : List OrgNode :=
  buildNodes (corpNames forest) .nobody .root forest

end OrgConsole
