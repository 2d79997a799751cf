import OrgConsole.Forest.Expansion
import OrgConsole.Membership
import OrgConsole.Permission.Matrix
import OrgConsole.Text.Basic
/-!
# Reports

The texts that the commands print. Every line of a report ends with a line break.
-/

namespace OrgConsole.Report

open Text

/-! ## The organization -/

/-- A node's line, two spaces further in for each level. -/
def nodeLine (i : NodeInfo) : List Char :=
  List.replicate (2 * i.level) ' ' ++ i.title.toList ++
    (if i.isCorp then "  (corp " else "  (dept ").toList ++ i.id.toList ++ [')', '\n']

/-- Every node of a forest on a line of its own. -/
def forest (nodes : List OrgNode) : String :=
  String.ofList ((Forest.rows (Forest.parentKeys nodes) nodes).flatMap fun row => nodeLine row.node.label)

/-! ## Memberships -/

/-- A membership in columns; a star marks the primary one. -/
def membershipColumns (m : Membership) : List Char :=
  let name := if m.departmentName.isEmpty then m.departmentId else m.departmentName
  (if m.isPrimary then '*' else ' ') :: ' ' :: padRight 24 name.toList ++
    ' ' :: padRight 10 m.departmentId.toList ++ ' ' :: padRight 20 m.corpName.toList ++
    m.jobTitle.elim [] fun title => ' ' :: title.toList

/-- A report with one more membership. White space at the end of the report goes before the line
break is added, also where it was there before the membership. -/
def addMembership (report : List Char) (m : Membership) : List Char :=
  trimRight (report ++ membershipColumns m) ++ ['\n']

/-- An employee's memberships. -/
def memberships (ms : List Membership) : String :=
  if ms.isEmpty then "no department memberships\n"
  else String.ofList (ms.foldl addMembership [])

/-! ## Permissions -/

/-- The line above the rows of a domain. -/
def domainLine (row : PermissionRow) : List Char :=
  row.domainName.toList ++ [' ', '('] ++ row.domain.toList ++ [')', '\n']

/-- A row of the matrix; the resource is named where its span begins. Texts are padded to any width: the limit of
65535 on a formatting width is left out. -/
def matrixLine (width span : Nat) (row : PermissionRow) : List Char :=
  let resource := if 0 < span then row.resourceName.toList else []
  [' ', ' '] ++ padRight width resource ++ [' ', ' ', '[', if row.isChecked then 'x' else ' ', ']', ' '] ++
    padRight 32 row.permissionId.toList ++ ' ' :: row.actionName.toList ++ ['\n']

/-- The lines of rows with their spans, below a row of the domain `above`. -/
def matrixLines (width : Nat) (above : Option String) : List (PermissionRow × Nat) → List Char
  | [] => []
  | (row, span) :: rest =>
    (if above = some row.domain then [] else domainLine row) ++ matrixLine width span row ++
      matrixLines width (some row.domain) rest

/-- The width of the widest resource name. -/
def resourceWidth (rows : List PermissionRow) : Nat :=
  rows.foldl (fun w row => max w row.resourceName.length) 0

/-- A permission matrix, by domain and by resource. -/
def matrix (rows : List PermissionRow) : String :=
  String.ofList (matrixLines (resourceWidth rows) none (rows.zip (resourceSpans rows)))

/-- What a save changed: grants, then revocations. -/
def change (c : PermissionChange) : String :=
  if c.isEmpty then "no changes\n"
  else String.ofList ((c.granted.flatMap fun id => ['+', ' '] ++ id.toList ++ ['\n']) ++
    c.revoked.flatMap fun id => ['-', ' '] ++ id.toList ++ ['\n'])

end OrgConsole.Report
