import OrgConsole.Screen.Cell
import OrgConsole.Text.Width
/-!
# Text on a line

Text is put on a line as spans of one style each. There are two ways. A row of spans goes over the
cells span by span, and blanks the second cell of a cluster that fills two. A paragraph goes over the
cells cluster by cluster, and leaves that cell as it is. Either way what does not fit is cut off, and
control characters are left out.
-/

namespace OrgConsole

/-- A text in a style. -/
structure Span where
  text : List Char
  style : Style
deriving DecidableEq, Repr

namespace Span

def plain (text : String) : Span := ⟨text.toList, .plain⟩

def of (text : String) (style : Style) : Span := ⟨text.toList, style⟩

/-- The clusters that can be drawn. -/
def clusters (s : Span) : List (List Char) :=
  (Text.clusters s.text).filter fun cs => !cs.any Text.isControl

/-- How many cells the span counts for. -/
def width (s : Span) : Nat :=
  Text.width s.text

end Span

namespace CellLine

/-! ## A row of spans -/

/-- Put clusters on the cells `right`, behind the cells `left`, which stand in reverse. A cluster that
fills no cell joins the one before it. -/
def putClusters (style : Style) (first : Bool) (left right : CellLine) : List (List Char) → CellLine
  | [] => left.reverse ++ right
  | cs :: rest =>
    let w := Text.clusterWidth cs
    if right.length < w then left.reverse ++ right
    else
      match left, right with
      | [], [] => []
      | l :: ls, right =>
        if w = 0 then putClusters style false ((l.appending cs).styled style :: ls) right rest
        else match right with
          | [] => left.reverse
          | c :: more =>
            putClusters style false
              (List.replicate (w - 1) .blank ++ (c.showing cs).styled style :: l :: ls) (more.drop (w - 1)) rest
      | [], c :: more =>
        let cell := ((if first then c.showing cs else c.appending cs)).styled style
        if w = 0 then putClusters style false [] (cell :: more) rest
        else putClusters style false (List.replicate (w - 1) .blank ++ [cell]) (more.drop (w - 1)) rest

/-- Put spans on a line one after the other. A span that counts for no cell is left out. -/
def putRow : List Span → CellLine → CellLine
  | [], line => line
  | s :: rest, line =>
    if line.isEmpty then line
    else if s.width = 0 then putRow rest line
    else
      let line := putClusters s.style true [] line s.clusters
      line.take s.width ++ putRow rest (line.drop s.width)

/-! ## A paragraph -/

/-- Put clusters with their styles on a line that is `total` cells long in all. -/
def putParagraph (total : Nat) : List (List Char × Style) → CellLine → CellLine
  | [], line => line
  | (cs, style) :: rest, line =>
    let w := Text.clusterWidth cs
    if w = 0 || total < w then putParagraph total rest line
    else if line.length < w then line
    else match line with
      | [] => []
      | c :: more => (c.showing cs).styled style :: more.take (w - 1) ++ putParagraph total rest (more.drop (w - 1))

/-- Put a line of text on a line of cells. -/
def putText (spans : List Span) (line : CellLine) : CellLine :=
  putParagraph line.length (spans.flatMap fun s => s.clusters.map fun cs => (cs, s.style)) line

/-- Put lines of text on lines of cells, from the first on. -/
def putTexts : List (List Span) → List CellLine → List CellLine
  | [], lines => lines
  | _, [] => []
  | spans :: rest, line :: lines => putText spans line :: putTexts rest lines

end CellLine

end OrgConsole
