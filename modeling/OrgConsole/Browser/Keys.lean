import OrgConsole.Browser.Replies
/-!
# Keys

What a key does depends on whether a search is being typed, and if not, on the pane that has the
keyboard. Wherever the cursor is moved to, the node there is selected.
-/

namespace OrgConsole

/-- The keys that mean something. -/
inductive Key
  | char (c : Char)
  | enter
  | escape
  | backspace
  | tab
  | up
  | down
  | left
  | right
  | other
deriving DecidableEq, Repr

structure KeyPress where
  key : Key
  control : Bool
deriving DecidableEq, Repr

namespace Browser

/-! ## The cursor -/

/-- Select the node under the cursor, and ask for its staff unless it is selected already. -/
def selectCursor (b : Browser) : Browser × List Fetch :=
  match b.cursorNode? with
  | none => (b, [])
  | some n =>
    if b.selected = some n.label.key then (b, [])
    else { b with selected := some n.label.key }.requestStaff n.label

/-- Move the cursor to a row. -/
def goTo (row : Nat) (b : Browser) : Browser × List Fetch :=
  { b with cursor := row }.selectCursor

def moveDown (b : Browser) : Browser × List Fetch :=
  if b.cursor + 1 < b.rows.length then b.goTo (b.cursor + 1) else (b, [])

def moveUp (b : Browser) : Browser × List Fetch :=
  if 0 < b.cursor then b.goTo (b.cursor - 1) else (b, [])

/-! ## Expanding -/

/-- Change the expanded keys by the key of the node under the cursor, if that has children. -/
def changeExpanded (f : KeySet → String → KeySet) (b : Browser) : Browser :=
  match b.cursorNode? with
  | some n => if n.hasChildren then { b with expanded := f b.expanded n.label.key } else b
  | none => b

/-- Collapse the node under the cursor if it is expanded, else expand it. -/
def toggle (b : Browser) : Browser :=
  b.changeExpanded fun keys key => if keys.contains key then keys.erase key else keys.insert key

def expand (b : Browser) : Browser :=
  b.changeExpanded .insert

/-- The last of the rows above the cursor whose level is one less. -/
def parentRow? (b : Browser) (level : Nat) : Option Nat :=
  if level = 0 then none
  else
    let above := (b.rows.take b.cursor).reverse
    (above.findIdx? fun r => r.node.label.level + 1 = level).map fun i => above.length - 1 - i

/-- Collapse the node under the cursor, or go to its parent if it is collapsed. -/
def collapseOrParent (b : Browser) : Browser × List Fetch :=
  match b.cursorNode? with
  | none => (b, [])
  | some n =>
    if b.expanded.contains n.label.key then ({ b with expanded := b.expanded.erase n.label.key }, [])
    else match b.parentRow? n.label.level with
      | some row => b.goTo row
      | none => (b, [])

/-! ## Searching -/

/-- Search for another text, from the first row on. -/
def searchFor (search : String) (b : Browser) : Browser :=
  { b with search := search, cursor := 0 }.refresh

/-- A key while the search is being typed. -/
def pressSearching (key : Key) (b : Browser) : Browser × List Fetch :=
  match key with
  | .escape => ({ b with searching := false, search := "" }.refresh, [])
  | .enter => { b with searching := false }.goTo 0
  | .backspace => (b.searchFor (String.ofList b.search.toList.dropLast), [])
  | .char c => (b.searchFor (b.search.push c), [])
  | _ => (b, [])

/-! ## Panes -/

/-- Give the keyboard to the detail pane, if it shows a node. -/
def enterDetail (b : Browser) : Browser × List Fetch :=
  let (b, fetches) := b.selectCursor
  (if b.selected.isSome then { b with pane := .detail } else b, fetches)

/-- A key in the tree pane. -/
def pressTree (key : Key) (b : Browser) : Browser × List Fetch :=
  match key with
  | .down | .char 'j' => b.moveDown
  | .up | .char 'k' => b.moveUp
  | .enter | .char ' ' => b.toggle.selectCursor
  | .right | .char 'l' => (b.expand, [])
  | .left | .char 'h' => b.collapseOrParent
  | .tab => b.enterDetail
  | .char '/' => ({ b with searching := true }.searchFor "", [])
  | .char 'r' => b.requestTree
  | _ => (b, [])

/-- A key in the detail pane. -/
def pressDetail (key : Key) (b : Browser) : Browser :=
  match key with
  | .escape | .tab | .left | .char 'h' => { b with pane := .tree }
  | .down | .char 'j' => if b.scroll + 1 < b.staff.length then { b with scroll := b.scroll + 1 } else b
  | .up | .char 'k' => { b with scroll := b.scroll - 1 }
  | _ => b

/-- Whether a key ends the browser: `c` with the control key always, `q` unless a search is being
typed. -/
def quits (b : Browser) (k : KeyPress) : Bool :=
  (k.control && k.key = .char 'c') || (!b.searching && k.key = .char 'q')

/-- A key that does not end the browser. -/
def handle (key : Key) (b : Browser) : Browser × List Fetch :=
  if b.searching then b.pressSearching key
  else match b.pane with
    | .tree => b.pressTree key
    | .detail => (b.pressDetail key, [])

/-- Press a key; none if it ends the browser. -/
def press (k : KeyPress) (b : Browser) : Option (Browser × List Fetch) :=
  if b.quits k then none else some (b.handle k.key)

end Browser

end OrgConsole
