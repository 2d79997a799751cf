import OrgConsole.Browser.Basic
import OrgConsole.Directory.Event
/-!
# Requests and replies

A reply counts only if its ticket is the latest of its kind. So the staff of a department that was
left meanwhile is never shown, and of two loads the later one stays.
-/

namespace OrgConsole.Browser

/-- How many levels are expanded when the organization is first loaded. -/
def initialDepth : Nat := 1

/-! ## Requests -/

/-- Ask for the organization. -/
def requestTree (b : Browser) : Browser × List Fetch :=
  let (ticket, requests) := b.treeRequests.issue
  ({ b with treeRequests := requests, status := "Loading organization…" }, [.tree ticket])

/-- Ask for the staff of a node. A corporation has none, so for it nothing is asked and no reply that
is under way counts any more. -/
def requestStaff (n : NodeInfo) (b : Browser) : Browser × List Fetch :=
  let b := { b with staff := [], scroll := 0 }
  if n.isCorp then
    ({ b with staffRequests := b.staffRequests.invalidate, staffLoading := false }, [])
  else
    let (ticket, requests) := b.staffRequests.issue
    ({ b with staffRequests := requests, staffLoading := true }, [.staff ticket n.id])

/-! ## Replies -/

/-- Whether a later request has made a reply void. -/
def isStale (b : Browser) : Reply → Bool
  | .tree ticket _ => !b.treeRequests.isCurrent ticket
  | .staff ticket _ _ => !b.staffRequests.isCurrent ticket

/-- What is noted of a reply that is dropped. -/
def staleEvent : Reply → Event
  | .tree ticket _ => .staleTree ticket
  | .staff ticket departmentId _ => .staleStaff ticket departmentId

/-- Show an organization. What is expanded stays so; if nothing is, the first levels are. -/
def showForest (forest : List OrgNode) (b : Browser) : Browser :=
  let expanded := if b.expanded.isEmpty then Forest.defaultExpanded forest initialDepth else b.expanded
  { b with forest := forest, expanded := expanded, status := "" }.refresh

/-- Show why a request failed. -/
def showFailure (why : String) (b : Browser) : Browser :=
  { b with status := "Error: " ++ why }

/-- Take a reply that counts. -/
def accept (b : Browser) : Reply → Browser
  | .tree _ (.ok forest) => b.showForest forest
  | .tree _ (.error why) => b.showFailure why
  | .staff _ _ (.ok staff) => { b with staffLoading := false, staff := staff }
  | .staff _ _ (.error why) => { b with staffLoading := false }.showFailure why

/-- Take a reply, or drop it if it is stale. -/
def receive (b : Browser) (r : Reply) : Browser :=
  if b.isStale r then b else b.accept r

/-- Take replies in order; what is dropped is noted. -/
def receiveAll (b : Browser) : List Reply → Browser × List Event
  | [] => (b, [])
  | r :: rest =>
    let (b', events) := (b.receive r).receiveAll rest
    (b', (if b.isStale r then [staleEvent r] else []) ++ events)

end OrgConsole.Browser
