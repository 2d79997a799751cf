import OrgConsole.Command
import OrgConsole.Directory.Workflow
import OrgConsole.Forest.Search
import OrgConsole.Json.Printer
import OrgConsole.Membership.Department
import OrgConsole.Report
import OrgConsole.Wire.Nodes
/-!
# Running commands

A command works with a directory and ends with the text that it prints, or with a failure that names
what the console was about to do. A command that fails prints nothing.
-/

namespace OrgConsole

/-- What the console is about to do when a directory fails. -/
inductive Task
  | loadingTree
  | loadingMemberships (employee : String)
  | savingMemberships (employee : String)
  | loadingPermissions (role : String)
  | savingPermissions (role : String)
deriving DecidableEq, Repr

def Task.text : Task → String
  | loadingTree => "loading organization tree"
  | loadingMemberships employee => "loading memberships of " ++ employee
  | savingMemberships employee => "saving memberships of " ++ employee
  | loadingPermissions role => "loading permissions of role " ++ role
  | savingPermissions role => "saving permissions of role " ++ role

/-- Why a command fails. -/
structure CommandFailure (ε : Type) where
  task : Option Task
  cause : Failure ε
deriving DecidableEq, Repr

namespace CommandFailure

/-- The texts of a failure, from what was to be done to what the directory says. -/
def messages {ε : Type} (describe : ε → String) (f : CommandFailure ε) : List String :=
  (f.task.map Task.text).toList ++ [f.cause.message describe] ++
    match f.cause with
    | .directory cause => [describe cause]
    | _ => []

end CommandFailure

namespace Command

variable {σ ε : Type} (dir : Directory σ ε)

/-- A step that belongs to a task. -/
def during {α : Type} (task : Task) (x : Action σ (Failure ε) α) : Action σ (CommandFailure ε) α :=
  x.mapFailure fun cause => ⟨some task, cause⟩

/-- A check that belongs to no task. -/
def checking {α : Type} (r : Except (Failure ε) α) : Action σ (CommandFailure ε) α :=
  (Action.ofExcept r).mapFailure fun cause => ⟨none, cause⟩

/-! ## The organization -/

def runTree (search : Option String) (json : Bool) : Action σ (CommandFailure ε) String := do
  let forest ← during .loadingTree dir.loadForest
  let found := searchForest forest (search.getD "")
  if json then return (Json.array (Wire.orgNodesJson found)).pretty ++ "\n"
  else return Report.forest found

/-! ## Memberships -/

/-- Edit an employee's memberships and report what the directory then has. -/
def runEdit (employee : String) (edit : MembershipEdit) : Action σ (CommandFailure ε) String := do
  return Report.memberships (← during (.savingMemberships employee) (dir.editMemberships employee [edit]))

def runMemberships : MembershipCommand → Action σ (CommandFailure ε) String
  | .list employee => do
    return Report.memberships (← during (.loadingMemberships employee) (dir.loadMemberships employee))
  | .add employee department title primary => do
    let forest ← during .loadingTree dir.loadForest
    let membership ← checking (Membership.inForest forest department title)
    runEdit dir employee (.add (membership.flagged primary))
  | .remove employee department => runEdit dir employee (.remove department)
  | .primary employee department => runEdit dir employee (.setPrimary department)
  | .title employee department title => runEdit dir employee (.setJobTitle department title)

/-! ## Permissions -/

/-- Set every permission of a list and report what changed. -/
def runSet (role : String) (ids : List String) (checked : Bool) : Action σ (CommandFailure ε) String := do
  let m ← during (.loadingPermissions role) (dir.loadMatrix role)
  checking (checkKnown m.groups ids)
  let selection := ids.foldl (fun s id => s.set id checked) m.selection
  let (change, _) ← during (.savingPermissions role) (dir.saveMatrix role m selection)
  return Report.change change

def runPermissions : PermissionCommand → Action σ (CommandFailure ε) String
  | .list role domain => do
    let m ← during (.loadingPermissions role) (dir.loadMatrix role)
    let rows := m.rows m.selection
    return Report.matrix (domain.elim rows fun d => rows.filter (·.domain = d))
  | .grant role ids => runSet dir role ids true
  | .revoke role ids => runSet dir role ids false

/-- Run a command that prints. Browsing prints nothing. -/
def run : Command → Action σ (CommandFailure ε) String
  | browse => pure ""
  | tree search json => runTree dir search json
  | memberships command => runMemberships dir command
  | permissions command => runPermissions dir command

end Command

end OrgConsole
