import OrgConsole.Membership
import OrgConsole.Permission.Template
import OrgConsole.Wire.Record
/-!
# The backend's records

How each record is read from JSON and written to it. An optional text that is absent is left out of
a written membership and is `null` elsewhere.
-/

namespace OrgConsole.Wire

/-- A plain value is read alike at every level. -/
def flat {α : Type} (read : Json → Reading α) : Nat → Json → Reading α :=
  fun _ => read

/-- An identifier or `null`. -/
def optionalId (room : Nat) : Json → Reading (Option String) :=
  optional (identifier room)

/-- An identifier, or `null` for the empty one. -/
def idOrEmpty (room : Nat) (v : Json) : Reading String := do
  return (← optionalId room v).getD ""

/-- A text or `null`. -/
def optionalString : Nat → Json → Reading (Option String) :=
  flat (optional string)

/-- The JSON form of an optional text. -/
def nullable : Option String → Json
  | some s => .string s
  | none => .null

/-! ## Employees -/

def membershipLayout : Layout Membership where
  title := "DepartmentMembership"
  blank := .of ""
  fields := [
    .of "department_id" true identifier fun x r => { r with departmentId := x },
    .of "department_name" false (flat string) fun x r => { r with departmentName := x },
    .of "corp_id" false idOrEmpty fun x r => { r with corpId := x },
    .of "corp_name" false (flat string) fun x r => { r with corpName := x },
    .of "job_title" false optionalString fun x r => { r with jobTitle := x },
    .of "is_primary" false (flat bool) fun x r => { r with isPrimary := x },
    .of "department_path" false optionalString fun x r => { r with departmentPath := x }]

def membership : Nat → Json → Reading Membership :=
  membershipLayout.read

def memberships : Nat → Json → Reading (List Membership) :=
  list membership

/-- A member of an object that is left out when absent. -/
def present (key : String) : Option String → List (String × Json)
  | some s => [(key, .string s)]
  | none => []

def membershipJson (m : Membership) : Json :=
  .object ([("department_id", .string m.departmentId), ("department_name", .string m.departmentName),
    ("corp_id", .string m.corpId), ("corp_name", .string m.corpName)] ++
    present "job_title" m.jobTitle ++ [("is_primary", .bool m.isPrimary)] ++
    present "department_path" m.departmentPath)

def employeeLayout : Layout Employee where
  title := "EmployeeSummary"
  blank := ⟨"", "", none, false⟩
  fields := [
    .of "id" true identifier fun x r => { r with id := x },
    .of "name" true (flat string) fun x r => { r with name := x },
    .of "job_title" false optionalString fun x r => { r with jobTitle := x },
    .of "is_primary" false (flat bool) fun x r => { r with isPrimary := x }]

def employee : Nat → Json → Reading Employee :=
  employeeLayout.read

def employees : Nat → Json → Reading (List Employee) :=
  list employee

def employeeJson (e : Employee) : Json :=
  .object [("id", .string e.id), ("name", .string e.name), ("job_title", nullable e.jobTitle),
    ("is_primary", .bool e.isPrimary)]

/-! ## Permissions -/

/-- An integer of eight bits. -/
def octet (v : Json) : Reading UInt8 := do
  return UInt8.ofNat (← integer "u8" 0 255 v).toNat

/-- An integer of thirty-two bits with a sign. -/
def word (v : Json) : Reading Int32 := do
  return Int32.ofInt (← integer "i32" (-0x80000000) 0x7fffffff v)

def actionLayout : Layout PermissionAction where
  title := "PermissionAction"
  blank := ⟨"", "", "", 0, 0⟩
  fields := [
    .of "action" true (flat string) fun x r => { r with action := x },
    .of "action_name" true (flat string) fun x r => { r with actionName := x },
    .of "description" false (flat string) fun x r => { r with description := x },
    .of "is_default" false (flat octet) fun x r => { r with mark := x },
    .of "sort_order" false (flat word) fun x r => { r with sortOrder := x }]

def action : Nat → Json → Reading PermissionAction :=
  actionLayout.read

def actions : Nat → Json → Reading (List PermissionAction) :=
  list action

def actionJson (a : PermissionAction) : Json :=
  .object [("action", .string a.action), ("action_name", .string a.actionName),
    ("description", .string a.description), ("is_default", .number (.integer a.mark.toNat)),
    ("sort_order", .number (.integer a.sortOrder.toInt))]

def resourceLayout : Layout PermissionResource where
  title := "PermissionResource"
  blank := ⟨"", "", []⟩
  fields := [
    .of "resource" true (flat string) fun x r => { r with resource := x },
    .of "resource_name" true (flat string) fun x r => { r with resourceName := x },
    .of "actions" false actions fun x r => { r with actions := x }]

def resource : Nat → Json → Reading PermissionResource :=
  resourceLayout.read

def resources : Nat → Json → Reading (List PermissionResource) :=
  list resource

def resourceJson (r : PermissionResource) : Json :=
  .object [("resource", .string r.resource), ("resource_name", .string r.resourceName),
    ("actions", .array (r.actions.map actionJson))]

def groupLayout : Layout PermissionGroup where
  title := "PermissionTemplateGroup"
  blank := ⟨"", "", []⟩
  fields := [
    .of "domain" true (flat string) fun x r => { r with domain := x },
    .of "domain_name" true (flat string) fun x r => { r with domainName := x },
    .of "resources" false resources fun x r => { r with resources := x }]

def group : Nat → Json → Reading PermissionGroup :=
  groupLayout.read

def groups : Nat → Json → Reading (List PermissionGroup) :=
  list group

def groupJson (g : PermissionGroup) : Json :=
  .object [("domain", .string g.domain), ("domain_name", .string g.domainName),
    ("resources", .array (g.resources.map resourceJson))]

end OrgConsole.Wire
