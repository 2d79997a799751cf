import OrgConsole.Browser.Basic
import OrgConsole.Screen.Box
import OrgConsole.Text.Basic
/-!
# What the browser draws

Below a header, which this module leaves out, the tree pane stands to the left of the detail pane,
and the last line is the status bar.
-/

namespace OrgConsole.Browser

/-- The border of a pane, brighter if the pane has the keyboard. -/
def borderStyle (focused : Bool) : Style :=
  .colored (if focused then .cyan else .darkGray)

def heading : Style := ⟨some .cyan, none, true⟩

/-! ## The tree pane -/

/-- Whether there is a search to show. -/
def showsSearch (b : Browser) : Bool :=
  b.searching || !b.search.isEmpty

def treeTitle (b : Browser) : String :=
  let total := toString (Tree.sizes b.forest)
  if b.showsSearch then " Organization (" ++ toString (Tree.sizes b.view) ++ "/" ++ total ++ ") "
  else " Organization (" ++ total ++ ") "

/-- The mark of a row: whether there is something below its node, and whether it can be seen. -/
def marker (row : Forest.Row) : String :=
  if !row.node.hasChildren then "  " else if row.expanded then "▾ " else "▸ "

/-- The style of a row's title. -/
def titleStyle (b : Browser) (n : NodeInfo) : Style where
  foreground := if b.selected = some n.key then some .cyan else if n.disabled then some .darkGray else none
  background := none
  bold := n.isCorp

def rowSpans (b : Browser) (row : Forest.Row) : List Span :=
  let n := row.node.label
  [⟨List.replicate (2 * n.level) ' ', .plain⟩, .of (marker row) (.colored .darkGray), .of n.title (b.titleStyle n)]

/-- The row under the cursor. -/
def cursorStyle : Style := ⟨some .white, some .blue, true⟩

/-- Rows on lines, scrolled no further than it takes to show the cursor. -/
def drawRows (b : Browser) (rows : List Forest.Row) (lines : List CellLine) : List CellLine :=
  let cursor := min b.cursor (rows.length - 1)
  let first := cursor + 1 - lines.length
  let put (i : Nat) (line : CellLine) : CellLine :=
    match rows[first + i]? with
    | none => line
    | some row =>
      let line := CellLine.putRow (b.rowSpans row) line
      if first + i = cursor then line.styled cursorStyle else line
  lines.mapIdx put

/-- A text over lines that take its style. -/
def drawNote (text : String) (style : Style) (lines : List CellLine) : List CellLine :=
  CellLine.putTexts ((Box.textLines text.toList).map fun line => [⟨line, .plain⟩]) (lines.map (·.styled style))

/-- The search as it is shown; a line after it stands for more to come. -/
def searchText (b : Browser) : String :=
  "/" ++ b.search ++ if b.searching then "_" else ""

/-- The rows, or why there are none. -/
def drawTree (b : Browser) (lines : List CellLine) : List CellLine :=
  let rows := b.rows
  if rows.isEmpty then
    drawNote (if b.forest.isEmpty then "No organization data." else "No matches.") (.colored .darkGray) lines
  else b.drawRows rows lines

/-- The tree pane. A search takes the last line, if there are more than two. -/
def treePane (b : Browser) (width height : Nat) : List CellLine :=
  let lines := Box.interior width height
  let content :=
    if b.showsSearch && 2 < lines.length then
      b.drawTree lines.dropLast ++ drawNote b.searchText (.colored .yellow) (lines.drop (lines.length - 1))
    else b.drawTree lines
  Box.around b.treeTitle (borderStyle (b.pane = .tree)) width height content

/-! ## The detail pane -/

/-- A label and its value. -/
def field (label value : String) : List Span :=
  [⟨Text.padRight 14 label.toList, heading⟩, .plain value]

/-- The corporation of a department, by name, by id, or by both. -/
def corporationText (n : NodeInfo) : String :=
  if n.corpName.isEmpty then (if n.corpId.isEmpty then "—" else n.corpId)
  else if n.corpId.isEmpty then n.corpName
  else n.corpName ++ " (" ++ n.corpId ++ ")"

/-- What is known of a node. -/
def nodeLines (t : OrgNode) : List (List Span) :=
  let n := t.label
  [field "kind" (if n.isCorp then "corporation" else "department"), field "id" n.id] ++
    (if n.isCorp then [] else [field "corporation" (corporationText n)]) ++
    (if n.path.isEmpty then [] else [field "path" n.path]) ++
    (if t.hasChildren then [field "units" (toString t.children.length)] else []) ++
    if n.disabled then [[.of "disabled" (.colored .red)]] else []

/-- A member of the staff; a star marks those whose primary department it is. -/
def staffLine (e : Employee) : List Span :=
  [.of (if e.isPrimary then "* " else "  ") (.colored .yellow), ⟨Text.padRight 24 e.name.toList, .plain⟩] ++
    (e.jobTitle.map fun title => Span.of title (.colored .darkGray)).toList

/-- The staff of the selected department from where it is scrolled to. -/
def staffLines (b : Browser) : List (List Span) :=
  let note (text : String) : List (List Span) := [[.of text (.colored .darkGray)]]
  [[], [.of "Staff" heading]] ++
    (if b.staffLoading then note "loading…" else if b.staff.isEmpty then note "No staff." else []) ++
    (b.staff.drop b.scroll).map staffLine

/-- The detail pane. -/
def detailPane (b : Browser) (width height : Nat) : List CellLine :=
  let lines := Box.interior width height
  match b.selectedNode? with
  | none =>
    Box.around " Detail " (borderStyle false) width height
      (drawNote "Move to a node to see its details." (.colored .darkGray) lines)
  | some t =>
    let texts := nodeLines t ++ if t.label.isCorp then [] else b.staffLines
    Box.around (" " ++ t.label.title ++ " ") (borderStyle (b.pane = .detail)) width height
      (CellLine.putTexts texts lines)

/-! ## The status bar -/

/-- The mode and the keys that mean something in it. -/
def modeHints (b : Browser) : String × String :=
  match b.pane, b.searching with
  | .tree, true => ("SEARCH", "Type to filter  Esc clear  Enter done")
  | .tree, false => ("TREE", "↑↓/jk move  Enter/Space toggle  →← expand/collapse  Tab detail  q quit")
  | .detail, _ => ("DETAIL", "↑↓/jk scroll  Esc/Tab back  q quit")

def statusLine (b : Browser) (width : Nat) : CellLine :=
  let (mode, hints) := b.modeHints
  let text := if b.status.isEmpty then hints else b.status
  CellLine.putText
    [.of (" " ++ mode ++ " ") ⟨some .black, some .cyan, true⟩, .of ("  " ++ text) (.colored .darkGray)]
    ((CellLine.blank width).styled ⟨none, some .black, false⟩)

/-! ## The frame -/

/-- The width of the tree pane: thirty-five hundredths, a half rounded up. -/
def treeWidth (width : Nat) : Nat :=
  (width * 35 + 50) / 100

/-- The lines of a frame below its first. -/
def frame (b : Browser) (width height : Nat) : List CellLine :=
  if height < 2 then []
  else
    let left := treeWidth width
    (b.treePane left (height - 2)).zipWith (· ++ ·) (b.detailPane (width - left) (height - 2)) ++ [b.statusLine width]

end OrgConsole.Browser
