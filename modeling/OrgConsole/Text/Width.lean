import OrgConsole.Text.Grapheme
import OrgConsole.Text.Property.Weightless
import OrgConsole.Text.Property.Wide
/-!
# Width on a screen

A cluster fills no cell, one or two.
-/

namespace OrgConsole.Text

/-- How many cells a character fills by itself. -/
def charWidth (c : Char) : Nat :=
  if 0x20 ≤ c.toNat && c.toNat < 0x7f then 1
  else if weightless.has c then 0
  else if wide.has c then 2
  else 1

/-- A control character, which fills no cell. -/
def isControl (c : Char) : Bool :=
  c.toNat < 0x20 || (0x7f ≤ c.toNat && c.toNat < 0xa0)

/-- The mark that asks for the picture of a character. -/
def pictureMark : Char := '\ufe0f'

/-- A cluster that is drawn as one picture. -/
def isPicture : List Char → Bool
  | [] => false
  | c :: rest =>
    if pictographic.has c then
      rest.contains pictureMark || rest.any isSkinTone || (rest.contains '\u200d' && rest.any pictographic.has)
    else (c.isDigit || c = '#' || c = '*') && rest.head? = some pictureMark

/-- How many cells a cluster counts for. A control character counts for one, though none is drawn. -/
def clusterWidth (cs : List Char) : Nat :=
  if cs.any isControl then 1
  else if isPicture cs then 2
  else cs.foldr (fun c cells => charWidth c + cells) 0

/-- How many cells a text counts for. -/
def width (cs : List Char) : Nat :=
  (clusters cs).foldr (fun c cells => clusterWidth c + cells) 0

end OrgConsole.Text
