import OrgConsole.Forest.Expansion
import OrgConsole.Forest.Lookup
import OrgConsole.Forest.Search
import OrgConsole.Membership
import OrgConsole.Ticket
/-!
# The browser

The browser shows the organization in one pane and the selected node in another. It never waits: it
hands out requests with tickets and takes replies whenever they come.
-/

namespace OrgConsole

/-- Which pane has the keyboard. -/
inductive Pane
  | tree
  | detail
deriving DecidableEq, Repr

/-- A request that the browser makes. -/
inductive Fetch
  | tree (ticket : Ticket)
  | staff (ticket : Ticket) (departmentId : String)
deriving DecidableEq, Repr

/-- A reply to a request: what was asked for, or why it cannot be had. -/
inductive Reply
  | tree (ticket : Ticket) (result : Except String (List OrgNode))
  | staff (ticket : Ticket) (departmentId : String) (result : Except String (List Employee))

/-- The state of the browser. -/
structure Browser where
  pane : Pane
  /-- The whole organization as last loaded. -/
  forest : List OrgNode
  /-- What the search leaves of it. -/
  view : List OrgNode
  expanded : KeySet
  search : String
  /-- Whether the search is being typed. -/
  searching : Bool
  /-- The row under the cursor. -/
  cursor : Nat
  /-- The key of the node in the detail pane. -/
  selected : Option String
  /-- The staff of the selected department. -/
  staff : List Employee
  staffLoading : Bool
  /-- How many rows of the staff are scrolled out of sight. -/
  scroll : Nat
  status : String
  treeRequests : RequestSequence
  staffRequests : RequestSequence

namespace Browser

/-- A browser that has nothing yet. -/
def new : Browser where
  pane := .tree
  forest := []
  view := []
  expanded := ∅
  search := ""
  searching := false
  cursor := 0
  selected := none
  staff := []
  staffLoading := false
  scroll := 0
  status := ""
  treeRequests := .new
  staffRequests := .new

/-! ## What it shows -/

/-- The rows of the tree pane. -/
def rows (b : Browser) : List Forest.Row :=
  Forest.rows b.expanded b.view

/-- The node under the cursor. -/
def cursorNode? (b : Browser) : Option OrgNode :=
  b.rows[b.cursor]?.map (·.node)

/-- The node in the detail pane. -/
def selectedNode? (b : Browser) : Option OrgNode :=
  b.selected.bind (findNode? b.forest)

/-- Search again. All that a search finds is expanded, and the cursor stays on a row if there is
one. -/
def refresh (b : Browser) : Browser :=
  let view := searchForest b.forest b.search
  let expanded := if b.search.isEmpty then b.expanded else b.expanded.insertMany (Forest.parentKeys view)
  { b with
    view := view
    expanded := expanded
    cursor := min b.cursor ((Forest.rows expanded view).length - 1) }

end Browser

end OrgConsole
