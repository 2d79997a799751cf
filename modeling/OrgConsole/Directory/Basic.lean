import OrgConsole.Directory.Event
import OrgConsole.Failure
import OrgConsole.Forest.Payload
import OrgConsole.Membership
import OrgConsole.Permission.Template
/-!
# Directories

The console reads and writes the organization through a directory. A directory has a state `σ` of its
own, fails in its own way `ε`, and owns what it stores; the console keeps no copy.
-/

namespace OrgConsole

/-- A directory at work: its state, and the events so far. -/
structure Session (σ : Type) where
  backend : σ
  events : List Event
deriving Repr

/-- A step in a session, which ends with a value or with a failure. -/
abbrev Action (σ ε α : Type) := EStateM ε (Session σ) α

namespace Action

variable {σ ε : Type}

/-- Note an event. -/
def note (e : Event) : Action σ ε Unit :=
  modify fun s => { s with events := s.events ++ [e] }

/-- Ask the backend, which answers and moves on. -/
def ask {α : Type} (f : σ → Except ε α × σ) : Action σ ε α := fun s =>
  match f s.backend with
  | (.ok a, backend) => .ok a { s with backend := backend }
  | (.error e, backend) => .error e { s with backend := backend }

/-- A step that cannot fail but for its result. -/
def ofExcept {α : Type} (r : Except ε α) : Action σ ε α := fun s =>
  match r with
  | .ok a => .ok a s
  | .error e => .error e s

/-- The same step with its failures seen from further out. -/
def mapFailure {ε' α : Type} (f : ε → ε') (x : Action σ ε α) : Action σ ε' α := fun s =>
  match x s with
  | .ok a s => .ok a s
  | .error e s => .error (f e) s

end Action

/-- What the console asks of a backend. -/
structure Directory (σ ε : Type) where
  /-- The whole organization. -/
  orgTree : Action σ ε (List RawNode)
  /-- The staff of a department. -/
  departmentEmployees : String → Action σ ε (List Employee)
  /-- The memberships of an employee. -/
  employeeDepartments : String → Action σ ε (List Membership)
  /-- Replace the memberships of an employee. -/
  saveEmployeeDepartments : String → List Membership → Action σ ε Unit
  /-- The permission template of a role. -/
  rolePermissions : String → Action σ ε (List PermissionGroup)
  /-- Replace the permission template of a role. -/
  saveRolePermissions : String → List PermissionGroup → Action σ ε Unit

end OrgConsole
