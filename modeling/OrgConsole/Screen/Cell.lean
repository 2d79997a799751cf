/-!
# Cells

A screen is made of lines of cells. A cell shows a cluster of characters in a style; a cluster that
fills two cells stands in the first.
-/

namespace OrgConsole

/-- The colours that the console uses; `plain` is the terminal's own. -/
inductive Color
  | plain
  | black
  | red
  | yellow
  | blue
  | cyan
  | darkGray
  | white
deriving DecidableEq, Repr

/-- What to change of how cells look. -/
structure Style where
  foreground : Option Color
  background : Option Color
  bold : Bool
deriving DecidableEq, Repr

namespace Style

/-- No change. -/
def plain : Style := ⟨none, none, false⟩

/-- Only another colour. -/
def colored (c : Color) : Style := ⟨some c, none, false⟩

end Style

structure Cell where
  symbol : List Char
  foreground : Color
  background : Color
  bold : Bool
deriving DecidableEq, Repr

namespace Cell

/-- A cell with nothing on it. -/
def blank : Cell := ⟨[' '], .plain, .plain, false⟩

/-- The cell in another style. -/
def styled (s : Style) (c : Cell) : Cell :=
  { c with
    foreground := s.foreground.getD c.foreground
    background := s.background.getD c.background
    bold := c.bold || s.bold }

/-- The cell with another symbol. -/
def showing (symbol : List Char) (c : Cell) : Cell :=
  { c with symbol := symbol }

/-- The cell with more in its symbol. -/
def appending (symbol : List Char) (c : Cell) : Cell :=
  { c with symbol := c.symbol ++ symbol }

end Cell

/-- A line of cells. -/
abbrev CellLine := List Cell

namespace CellLine

/-- A line with nothing on it. -/
def blank (width : Nat) : CellLine :=
  List.replicate width .blank

/-- A line in another style. -/
def styled (s : Style) (line : CellLine) : CellLine :=
  line.map (·.styled s)

end CellLine

end OrgConsole
