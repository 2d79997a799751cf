import OrgConsole.Directory.Basic
import OrgConsole.Text.Quoted
/-!
# A directory in memory

It keeps lists and templates by id and remembers what it was asked to save. How it treats a save can
be chosen, and it can forget which membership is primary.
-/

namespace OrgConsole

/-- What a directory in memory does with a save. -/
inductive SaveMode
  /-- Keep what is sent. -/
  | keep
  /-- Accept what is sent and keep what there was. -/
  | ignore
  /-- Refuse. -/
  | refuse
deriving DecidableEq, Repr

/-- Something that a directory was asked to save. -/
inductive Save
  | memberships (employeeId : String) (list : List Membership)
  | permissions (roleId : String) (groups : List PermissionGroup)
deriving DecidableEq, Repr

/-- How a directory in memory fails. -/
inductive MemoryFailure
  | noOrganization (why : String)
  | noEmployee (id : String)
  | noRole (id : String)
  | readOnly
deriving DecidableEq, Repr

def MemoryFailure.message : MemoryFailure → String
  | noOrganization why => why
  | noEmployee id => "no employee with id " ++ id
  | noRole id => "no role with id " ++ id
  | readOnly => "store is read-only"

/-- The state of a directory in memory. -/
structure Memory where
  organization : Except String (List RawNode)
  employees : List (String × List Membership)
  roles : List (String × List PermissionGroup)
  forgetsPrimary : Bool
  mode : SaveMode
  saved : List Save

/-- The list with the entry of a key replaced, or added at its end. -/
def assign {α : Type} (key : String) (a : α) : List (String × α) → List (String × α)
  | [] => [(key, a)]
  | (k, b) :: rest => if k = key then (key, a) :: rest else (k, b) :: assign key a rest

namespace Memory

/-- A list as the directory hands it out. -/
def handOut (m : Memory) (ms : List Membership) : List Membership :=
  if m.forgetsPrimary then ms.map (·.flagged false) else ms

/-- Take a save that changes the state by `store`. -/
def save (what : Save) (store : Memory → Memory) (m : Memory) : Except MemoryFailure Unit × Memory :=
  match m.mode with
  | .refuse => (.error .readOnly, m)
  | .ignore => (.ok (), { m with saved := m.saved ++ [what] })
  | .keep => (.ok (), store { m with saved := m.saved ++ [what] })

/-- The directory. -/
def directory : Directory Memory MemoryFailure where
  orgTree := Action.ask fun m => (m.organization.mapError .noOrganization, m)
  departmentEmployees _ := pure []
  employeeDepartments id := Action.ask fun m =>
    (match m.employees.lookup id with
      | some ms => .ok (m.handOut ms)
      | none => .error (.noEmployee id), m)
  saveEmployeeDepartments id ms := Action.ask
    (save (.memberships id ms) fun m => { m with employees := assign id ms m.employees })
  rolePermissions id := Action.ask fun m =>
    (match m.roles.lookup id with
      | some groups => .ok groups
      | none => .error (.noRole id), m)
  saveRolePermissions id groups := Action.ask
    (save (.permissions id groups) fun m => { m with roles := assign id groups m.roles })

end Memory

end OrgConsole
