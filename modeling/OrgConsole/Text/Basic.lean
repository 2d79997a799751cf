/-!
# Characters, blanks and columns

A property of characters is a list of ranges of code points. A text is blank when nothing is left of
it after trimming; the characters that are trimmed are those with the property White_Space, which is
more than the blanks of ASCII. A column is as wide as it counts characters, whatever their width on a
screen.
-/

namespace OrgConsole.Text

/-! ## Sets of characters -/

/-- Ranges of code points, each with its first and its last, in order. -/
abbrev CharRanges := List (Nat × Nat)

/-- A character lies in one of the ranges. -/
def CharRanges.has (ranges : CharRanges) (c : Char) : Bool :=
  ranges.any fun r => r.1 ≤ c.toNat && c.toNat ≤ r.2

/-! ## Blanks -/

/-- The property White_Space. -/
def whiteSpace : CharRanges := [
  (0x9, 0xd), (0x20, 0x20), (0x85, 0x85), (0xa0, 0xa0), (0x1680, 0x1680), (0x2000, 0x200a),
  (0x2028, 0x2029), (0x202f, 0x202f), (0x205f, 0x205f), (0x3000, 0x3000)]

def isSpace (c : Char) : Bool :=
  whiteSpace.has c

def trimLeft (cs : List Char) : List Char :=
  cs.dropWhile isSpace

def trimRight (cs : List Char) : List Char :=
  (cs.reverse.dropWhile isSpace).reverse

def trim (cs : List Char) : List Char :=
  trimRight (trimLeft cs)

/-- Nothing but white space. -/
def isBlank (s : String) : Bool :=
  s.toList.all isSpace

/-- A text that is not blank, as it is. -/
def nonBlank? (s : String) : Option String :=
  if isBlank s then none else some s

/-! ## Columns -/

/-- A text with spaces after it, at least `width` characters long. -/
def padRight (width : Nat) (cs : List Char) : List Char :=
  cs ++ List.replicate (width - cs.length) ' '

end OrgConsole.Text
