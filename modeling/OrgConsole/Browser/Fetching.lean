import OrgConsole.Browser.Keys
import OrgConsole.Directory.Workflow
/-!
# Fetching

A request is carried out with a directory and always ends with a reply, whatever the directory says.
-/

namespace OrgConsole.Fetch

variable {σ ε : Type} (dir : Directory σ ε) (describe : ε → String)

/-- A step that ends with its result or with the text of its failure. -/
def attempt {ε' α : Type} (message : ε' → String) (x : Action σ ε' α) (s : Session σ) :
    Except String α × Session σ :=
  match x s with
  | .ok a s => (.ok a, s)
  | .error e s => (.error (message e), s)

/-- Carry out a request. -/
def perform (s : Session σ) : Fetch → Reply × Session σ
  | .tree ticket =>
    let (result, s) := attempt (Failure.message describe) dir.loadForest s
    (.tree ticket result, s)
  | .staff ticket departmentId =>
    let (result, s) := attempt describe (dir.departmentEmployees departmentId) s
    (.staff ticket departmentId result, s)

/-- Carry out requests in order. -/
def performAll (s : Session σ) : List Fetch → List Reply × Session σ
  | [] => ([], s)
  | f :: rest =>
    let (reply, s) := perform dir describe s f
    let (replies, s) := performAll s rest
    (reply :: replies, s)

end OrgConsole.Fetch
