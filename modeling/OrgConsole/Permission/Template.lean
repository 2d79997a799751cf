/-!
# Permission templates

What may be granted to a role is a template: domains, the resources of a domain, and the actions on
a resource. An action whose mark is `1` is granted.
-/

namespace OrgConsole

/-- An action on a resource. -/
structure PermissionAction where
  action : String
  actionName : String
  description : String
  /-- `1` for a granted action. -/
  mark : UInt8
  sortOrder : Int32
deriving DecidableEq, Repr, Inhabited

/-- A resource with its actions. -/
structure PermissionResource where
  resource : String
  resourceName : String
  actions : List PermissionAction
deriving DecidableEq, Repr, Inhabited

/-- A domain with its resources. -/
structure PermissionGroup where
  domain : String
  domainName : String
  resources : List PermissionResource
deriving DecidableEq, Repr, Inhabited

/-- The id of an action: the names of domain, resource and action with underscores between them. -/
def permissionId (domain resource action : String) : String :=
  domain ++ "_" ++ resource ++ "_" ++ action

end OrgConsole
