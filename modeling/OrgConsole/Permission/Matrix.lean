import OrgConsole.Permission.Leaf
/-!
# The permission matrix

A role's permissions are edited as rows with checkboxes over a selection, and written back into the
template they came from. Only marks change on the way back.
-/

namespace OrgConsole

/-! ## Rows -/

/-- A row with a checkbox. -/
structure PermissionRow where
  permissionId : String
  domain : String
  domainName : String
  resource : String
  resourceName : String
  action : String
  actionName : String
  actionDescription : String
  isChecked : Bool
deriving DecidableEq, Repr, Inhabited

/-- The row of a leaf. -/
def Leaf.row (s : Selection) (l : Leaf) : PermissionRow where
  permissionId := l.id
  domain := l.domain
  domainName := l.domainName
  resource := l.resource
  resourceName := l.resourceName
  action := l.action.action
  actionName := l.action.actionName
  actionDescription := l.action.description
  isChecked := s.isChecked l.id

/-- A row for each action, in template order. -/
def flatten (groups : List PermissionGroup) (s : Selection) : List PermissionRow :=
  (leaves groups).map (·.row s)

/-- Two rows lie in one domain and under one resource name. -/
def PermissionRow.sameResource (a b : PermissionRow) : Bool :=
  a.domain = b.domain && a.resourceName = b.resourceName

/-- For each row, the length of the run of rows of one resource that it begins, or `0` within a run. -/
def resourceSpans : List PermissionRow → List Nat
  | [] => []
  | row :: rest =>
    match rest, resourceSpans rest with
    | next :: _, k :: spans => if row.sameResource next then (k + 1) :: 0 :: spans else 1 :: k :: spans
    | _, spans => 1 :: spans

/-! ## Writing back -/

/-- The action with its mark taken from a selection. -/
def PermissionAction.remark (s : Selection) (id : String) (a : PermissionAction) : PermissionAction :=
  { a with mark := if s.isChecked id then 1 else 0 }

/-- The template with every mark taken from a selection. -/
def rebuild (groups : List PermissionGroup) (s : Selection) : List PermissionGroup :=
  groups.map fun g => { g with resources := g.resources.map fun r =>
    { r with actions := r.actions.map fun a => a.remark s (permissionId g.domain r.resource a.action) } }

/-! ## Changes -/

/-- What a selection changes in another. -/
structure PermissionChange where
  granted : List String
  revoked : List String
deriving DecidableEq, Repr, Inhabited

def PermissionChange.isEmpty (c : PermissionChange) : Bool :=
  c.granted.isEmpty && c.revoked.isEmpty

/-- The ids of a template's actions on which two selections differ, in template order. -/
def changeBetween (groups : List PermissionGroup) (before after : Selection) : PermissionChange where
  granted := (permissionIds groups).filter fun id => !before.isChecked id && after.isChecked id
  revoked := (permissionIds groups).filter fun id => before.isChecked id && !after.isChecked id

/-! ## The matrix of a role -/

/-- A role's template with the selection that its marks stand for. -/
structure PermissionMatrix where
  groups : List PermissionGroup
  selection : Selection

namespace PermissionMatrix

/-- The matrix of a template, unless two of its actions share an id. -/
def ofGroups {ε : Type} (groups : List PermissionGroup) : Except (Failure ε) PermissionMatrix := do
  checkUnique groups
  return ⟨groups, seedSelection groups⟩

/-- The rows under a selection. -/
def rows (m : PermissionMatrix) (s : Selection) : List PermissionRow :=
  flatten m.groups s

/-- What a selection would change in the role. -/
def change (m : PermissionMatrix) (s : Selection) : PermissionChange :=
  changeBetween m.groups m.selection s

end PermissionMatrix

end OrgConsole
