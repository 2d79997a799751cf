/-!
# Memberships

An employee belongs to departments. A membership names the department and the corporation it belongs
to, and says whether the department is the employee's primary one.

An employee with memberships has exactly one primary one. Where several claim to be primary the first
of them wins, and where none does the first membership is promoted.
-/

namespace OrgConsole

/-- An employee's membership in one department. -/
structure Membership where
  departmentId : String
  departmentName : String
  corpId : String
  corpName : String
  jobTitle : Option String
  isPrimary : Bool
  departmentPath : Option String
deriving DecidableEq, Repr, Inhabited

/-- A membership of which only the department is known. -/
def Membership.of (departmentId : String) : Membership :=
  ⟨departmentId, "", "", "", none, false, none⟩

/-- The same membership with the flag set or cleared. -/
def Membership.flagged (m : Membership) (isPrimary : Bool) : Membership :=
  { m with isPrimary := isPrimary }

/-- A row of a department's staff list. -/
structure Employee where
  id : String
  name : String
  jobTitle : Option String
  isPrimary : Bool
deriving DecidableEq, Repr, Inhabited

/-! ## The primary membership -/

/-- The first primary membership, if any. -/
def primary? (ms : List Membership) : Option Membership :=
  ms.find? (·.isPrimary)

/-- Every primary membership after the first one demoted. -/
def keepFirstPrimary : List Membership → List Membership
  | [] => []
  | m :: rest => if m.isPrimary then m :: rest.map (·.flagged false) else m :: keepFirstPrimary rest

/-- The list with exactly one primary membership, its entries and their order kept. -/
def reconcile (ms : List Membership) : List Membership :=
  if ms.any (·.isPrimary) then keepFirstPrimary ms
  else match ms with
    | [] => []
    | m :: rest => m.flagged true :: rest

end OrgConsole
