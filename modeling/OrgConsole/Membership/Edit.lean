import OrgConsole.Membership
/-!
# Edits to a membership list

Every edit ends by reconciling the list, so a list that comes out of an edit has one primary
membership or none at all.
-/

namespace OrgConsole

/-- A single edit to an employee's memberships. -/
inductive MembershipEdit
  /-- Replace the list. -/
  | load (list : List Membership)
  /-- Join a department, unless already a member; a flagged membership takes over as primary. -/
  | add (membership : Membership)
  /-- Leave a department. -/
  | remove (departmentId : String)
  /-- Make a department the primary one, if a member. -/
  | setPrimary (departmentId : String)
  /-- Change or clear the job title held in a department. -/
  | setJobTitle (departmentId : String) (jobTitle : Option String)
deriving DecidableEq, Repr

/-- The list has a membership in the department. -/
def isMember (ms : List Membership) (departmentId : String) : Bool :=
  ms.any (·.departmentId = departmentId)

/-- The first membership in the department gets the job title. -/
def retitle (departmentId : String) (jobTitle : Option String) : List Membership → List Membership
  | [] => []
  | m :: rest =>
    if m.departmentId = departmentId then { m with jobTitle := jobTitle } :: rest
    else m :: retitle departmentId jobTitle rest

/-- The list after an edit, before it is reconciled. -/
def MembershipEdit.edited (ms : List Membership) : MembershipEdit → List Membership
  | load list => list
  | add m =>
    if isMember ms m.departmentId then ms
    else (if m.isPrimary then ms.map (·.flagged false) else ms) ++ [m]
  | remove d => ms.filter (·.departmentId ≠ d)
  | setPrimary d => if isMember ms d then ms.map fun m => m.flagged (m.departmentId = d) else ms
  | setJobTitle d title => retitle d title ms

/-- Apply an edit. -/
def MembershipEdit.apply (ms : List Membership) (edit : MembershipEdit) : List Membership :=
  reconcile (edit.edited ms)

/-- Apply edits in order. -/
def applyEdits (ms : List Membership) (edits : List MembershipEdit) : List Membership :=
  edits.foldl MembershipEdit.apply ms

end OrgConsole
