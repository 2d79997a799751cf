import OrgConsole.Screen.Span
/-!
# Boxes

A box has a border with a title in its upper side, and lines within.
-/

namespace OrgConsole.Box

/-- The size of what is within a box. -/
def inner (size : Nat) : Nat := size - 2

/-- The lines within a box before anything is put on them. -/
def interior (width height : Nat) : List CellLine :=
  List.replicate (inner height) (CellLine.blank (inner width))

/-- A cell of a border. -/
def edge (style : Style) (c : Char) : Cell :=
  (Cell.blank.showing [c]).styled style

/-- A line of a text that ends at a line break, without it. -/
def textLines (text : List Char) : List (List Char) :=
  match text with
  | [] => []
  | c :: rest =>
    if c = '\n' then [] :: textLines rest
    else match textLines rest with
      | [] => [[c]]
      | line :: lines =>
        if c = '\r' && line.isEmpty && rest.head? = some '\n' then [] :: lines else (c :: line) :: lines

/-- A side between two corners; a side of one cell is its left corner. -/
def side (style : Style) (left right : Char) (width : Nat) (put : CellLine → CellLine) : CellLine :=
  match width with
  | 0 => []
  | 1 => [edge style left]
  | width => edge style left :: put (List.replicate (inner width) (edge style '─')) ++ [edge style right]

/-- A line within the box between its sides. -/
def between (style : Style) (width : Nat) (line : CellLine) : CellLine :=
  match width with
  | 0 => []
  | 1 => [edge style '│']
  | _ => edge style '│' :: line ++ [edge style '│']

/-- A box around lines, which are as many and as long as `interior` says. -/
def around (title : String) (style : Style) (width height : Nat) (lines : List CellLine) : List CellLine :=
  let title := (textLines title.toList).map fun line => (⟨line, .plain⟩ : Span)
  match height with
  | 0 => []
  | 1 => [side style '┌' '┐' width (CellLine.putRow title)]
  | _ => side style '┌' '┐' width (CellLine.putRow title) :: lines.map (between style width) ++
    [side style '└' '┘' width id]

end OrgConsole.Box
