import OrgConsole.Failure
import OrgConsole.Permission.Selection
/-!
# Actions of a template and their ids

Everything about permissions goes through the leaves of a template: its actions in order, each with
its permission id. Underscores in names can give two actions one id; such templates are refused.
-/

namespace OrgConsole

/-- An action with its id and the names above it. -/
structure Leaf where
  id : String
  domain : String
  domainName : String
  resource : String
  resourceName : String
  action : PermissionAction
deriving DecidableEq, Repr

/-- The leaves of a resource in a domain. -/
def PermissionResource.leaves (g : PermissionGroup) (r : PermissionResource) : List Leaf :=
  r.actions.map fun a =>
    ⟨permissionId g.domain r.resource a.action, g.domain, g.domainName, r.resource, r.resourceName, a⟩

/-- The leaves of a domain. -/
def PermissionGroup.leaves (g : PermissionGroup) : List Leaf :=
  g.resources.flatMap (·.leaves g)

/-- The leaves of a template, in order. -/
def leaves (groups : List PermissionGroup) : List Leaf :=
  groups.flatMap (·.leaves)

/-- The ids of a template's actions, in order. -/
def permissionIds (groups : List PermissionGroup) : List String :=
  (leaves groups).map (·.id)

/-- The selection that a template's own marks stand for. -/
def seedSelection (groups : List PermissionGroup) : Selection :=
  .ofList ((leaves groups).map fun l => (l.id, l.action.mark == 1))

/-- The first member of a list that occurred before, in the list or in `seen`. -/
def firstRepeat? (seen : List String) : List String → Option String
  | [] => none
  | id :: rest => if id ∈ seen then some id else firstRepeat? (id :: seen) rest

/-- Refuse a template with an id that two actions share. -/
def checkUnique {ε : Type} (groups : List PermissionGroup) : Except (Failure ε) Unit :=
  match firstRepeat? [] (permissionIds groups) with
  | some id => .error (.duplicatePermission id)
  | none => .ok ()

/-- Refuse the first id that no action has. -/
def checkKnown {ε : Type} (groups : List PermissionGroup) (ids : List String) : Except (Failure ε) Unit :=
  match ids.find? (!(permissionIds groups).contains ·) with
  | some id => .error (.unknownPermission id)
  | none => .ok ()

end OrgConsole
