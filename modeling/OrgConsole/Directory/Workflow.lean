import OrgConsole.Directory.Basic
import OrgConsole.Forest.Build
import OrgConsole.Membership.Edit
import OrgConsole.Permission.Matrix
/-!
# Working with a directory

Every save derives what to send, sends it, and reads back what the directory then has. An edit that
changes nothing sends nothing.
-/

namespace OrgConsole.Directory

variable {σ ε : Type} (dir : Directory σ ε)

/-- A request to the directory, as a step of the console. -/
def lift {α : Type} (x : Action σ ε α) : Action σ (Failure ε) α :=
  x.mapFailure .directory

/-! ## The organization -/

/-- Read the organization and build the display forest. -/
def loadForest : Action σ (Failure ε) (List OrgNode) := do
  let forest := buildForest (← lift dir.orgTree)
  Action.note (.treeLoaded forest.length (Tree.sizes forest))
  return forest

/-! ## Memberships -/

/-- Read an employee's memberships, reconciled. -/
def loadMemberships (employeeId : String) : Action σ (Failure ε) (List Membership) := do
  return reconcile (← lift (dir.employeeDepartments employeeId))

/-- Reconcile and save memberships, and read back what the directory has. -/
def saveMemberships (employeeId : String) (ms : List Membership) : Action σ (Failure ε) (List Membership) := do
  let ms := reconcile ms
  lift (dir.saveEmployeeDepartments employeeId ms)
  Action.note (.membershipsSaved employeeId ms.length ((primary? ms).map (·.departmentId)))
  dir.loadMemberships employeeId

/-- Read an employee's memberships, edit them and save the result. -/
def editMemberships (employeeId : String) (edits : List MembershipEdit) :
    Action σ (Failure ε) (List Membership) := do
  let current ← dir.loadMemberships employeeId
  let edited := applyEdits current edits
  if edited = current then do
    Action.note (.membershipsUnchanged employeeId)
    return current
  else dir.saveMemberships employeeId edited

/-! ## Permissions -/

/-- Read a role's permission matrix. -/
def loadMatrix (roleId : String) : Action σ (Failure ε) PermissionMatrix := do
  Action.ofExcept (PermissionMatrix.ofGroups (← lift (dir.rolePermissions roleId)))

/-- Save a selection over a matrix: what changed, and the matrix that the directory then has. -/
def saveMatrix (roleId : String) (m : PermissionMatrix) (s : Selection) :
    Action σ (Failure ε) (PermissionChange × PermissionMatrix) := do
  let change := m.change s
  if change.isEmpty then do
    Action.note (.permissionsUnchanged roleId)
    return (change, m)
  else do
    lift (dir.saveRolePermissions roleId (rebuild m.groups s))
    Action.note (.permissionsSaved roleId change.granted.length change.revoked.length)
    return (change, ← dir.loadMatrix roleId)

end OrgConsole.Directory
