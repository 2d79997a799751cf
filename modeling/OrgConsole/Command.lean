/-!
# Commands

What the console can be asked to do.
-/

namespace OrgConsole

/-- Work on an employee's memberships. -/
inductive MembershipCommand
  | list (employee : String)
  | add (employee department : String) (title : Option String) (primary : Bool)
  | remove (employee department : String)
  | primary (employee department : String)
  /-- Set the job title, or clear it. -/
  | title (employee department : String) (title : Option String)
deriving DecidableEq, Repr

/-- Work on a role's permissions. -/
inductive PermissionCommand
  /-- List them, of one domain if one is named. -/
  | list (role : String) (domain : Option String)
  | grant (role : String) (ids : List String)
  | revoke (role : String) (ids : List String)
deriving DecidableEq, Repr

inductive Command
  /-- Browse the organization, which is what happens if nothing is asked. -/
  | browse
  /-- Print the organization, or what a search leaves of it. -/
  | tree (search : Option String) (json : Bool)
  | memberships (command : MembershipCommand)
  | permissions (command : PermissionCommand)
deriving DecidableEq, Repr

end OrgConsole
