import OrgConsole.Json.Value
import OrgConsole.Ticket
/-!
# Events

What the console notes down while it works.
-/

namespace OrgConsole

/-- The methods of a request. -/
inductive Method
  | get
  | put
deriving DecidableEq, Repr

def Method.name : Method → String
  | get => "GET"
  | put => "PUT"

/-- Something worth noting. -/
inductive Event
  | request (method : Method) (path : String)
  | response (path : String) (status : Nat)
  | treeLoaded (roots nodes : Nat)
  | membershipsSaved (employeeId : String) (count : Nat) (primary : Option String)
  | membershipsUnchanged (employeeId : String)
  | permissionsSaved (roleId : String) (granted revoked : Nat)
  | permissionsUnchanged (roleId : String)
  | staleTree (ticket : Ticket)
  | staleStaff (ticket : Ticket) (departmentId : String)
deriving DecidableEq, Repr

namespace Event

/-- Saves are of interest to everyone, all else to those who look for faults. -/
def level : Event → String
  | membershipsSaved .. | permissionsSaved .. => "INFO"
  | _ => "DEBUG"

def message : Event → String
  | request method _ => method.name
  | response .. => "response"
  | treeLoaded .. => "organization tree loaded"
  | membershipsSaved .. => "memberships saved"
  | membershipsUnchanged _ => "membership edit changed nothing; not saving"
  | permissionsSaved .. => "role permissions saved"
  | permissionsUnchanged _ => "permission selection unchanged; not saving"
  | staleTree _ => "dropping stale tree response"
  | staleStaff .. => "dropping stale staff response"

/-- The named values of an event; an absent one is left out. -/
def fields : Event → List (String × Json)
  | request _ path => [("path", .string path)]
  | response path status => [("path", .string path), ("status", .number (.integer status))]
  | treeLoaded roots nodes => [("roots", .number (.integer roots)), ("nodes", .number (.integer nodes))]
  | membershipsSaved employeeId count primary =>
    [("employee_id", .string employeeId), ("count", .number (.integer count))] ++
      (primary.map fun d => ("primary", Json.string d)).toList
  | membershipsUnchanged employeeId => [("employee_id", .string employeeId)]
  | permissionsSaved roleId granted revoked =>
    [("role_id", .string roleId), ("granted", .number (.integer granted)), ("revoked", .number (.integer revoked))]
  | permissionsUnchanged roleId => [("role_id", .string roleId)]
  | staleTree ticket => [("ticket", .string ticket.text)]
  | staleStaff ticket departmentId => [("ticket", .string ticket.text), ("department_id", .string departmentId)]

end Event

end OrgConsole
