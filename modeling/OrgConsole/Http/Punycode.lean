/-!
# Labels beyond ASCII

A label is written in ASCII as its ASCII characters, then for every other character, in order of code
point, how many insertions lie between it and the one before. These counts are numbers in digits
whose base depends on the digit's place and on a bias that follows the counts. `decode?` reads a
written label back.
-/

namespace OrgConsole.Punycode

/-- A digit below thirty-six, letters first. -/
def digit (n : Nat) : Char :=
  if n < 26 then Char.ofNat ('a'.toNat + n) else Char.ofNat ('0'.toNat + (n - 26))

/-- The number below thirty-six that a digit stands for. -/
def digitValue? (c : Char) : Option Nat :=
  if 'a' ≤ c && c ≤ 'z' then some (c.toNat - 'a'.toNat)
  else if '0' ≤ c && c ≤ '9' then some (c.toNat - '0'.toNat + 26)
  else none

/-- A digit below this is the last one of its number; `place` grows by thirty-six with each digit. -/
def threshold (bias place : Nat) : Nat :=
  if place ≤ bias then 1 else if bias + 26 ≤ place then 26 else place - bias

theorem threshold_pos (bias place : Nat) : 0 < threshold bias place := by
  unfold threshold; split <;> (try split) <;> omega

/-- Cut a count down to at most 455 by thirty-fives, adding thirty-six for each cut. -/
def scale (count sum : Nat) : Nat :=
  if 455 < count then scale (count / 35) (sum + 36) else sum + 36 * count / (count + 38)
termination_by count

/-- The bias after a count, when the label has so many characters. -/
def bias (count characters : Nat) (first : Bool) : Nat :=
  let count := if first then count / 700 else count / 2
  scale (count + count / characters) 0

/-! ## Writing -/

/-- The digits of a number, the least one first. -/
def digits (bias place n : Nat) : List Char :=
  let t := threshold bias place
  if n < t then [digit n]
  else digit (t + (n - t) % (36 - t)) :: digits bias (place + 36) ((n - t) / (36 - t))
termination_by n
decreasing_by
  have := threshold_pos bias place
  have := Nat.div_le_self (n - threshold bias place) (36 - threshold bias place)
  omega

/-- What is written, for `handled` characters, and the insertions passed since the last of them. -/
structure Writer where
  handled : Nat
  bias : Nat
  count : Nat
  written : List Char

/-- Pass a place of the label while every `c` with code point `m` goes in. -/
def Writer.pass (basic m : Nat) (w : Writer) (c : Char) : Writer :=
  if c.toNat < m then { w with count := w.count + 1 }
  else if c.toNat = m then
    { handled := w.handled + 1
      bias := Punycode.bias w.count (w.handled + 1) (w.handled = basic)
      count := 0
      written := w.written ++ digits w.bias 36 w.count }
  else w

/-- Let the code points go in, which are in order and not below `next`. -/
def Writer.run (label : List Char) (basic : Nat) : (points : List Nat) → (next : Nat) → Writer → Writer
  | [], _, w => w
  | m :: points, next, w =>
    let w := { w with count := w.count + (m - next) * (w.handled + 1) }
    let w := label.foldl (Writer.pass basic m) w
    Writer.run label basic points (m + 1) { w with count := w.count + 1 }

/-- A label in ASCII characters alone. -/
def encode (label : List Char) : List Char :=
  let basic := label.filter (·.toNat < 0x80)
  let points := ((label.map Char.toNat).filter (0x80 ≤ ·)).mergeSort.eraseDups
  let start := basic ++ if basic.isEmpty then [] else ['-']
  (Writer.run label basic.length points 0x80 ⟨basic.length, 72, 0, start⟩).written

/-! ## Reading -/

/-- What is read, the code point and place of the last insertion, and the number being read: its
place, the weight of its next digit and the sum with what went before. -/
structure Reader where
  point : Nat
  index : Nat
  bias : Nat
  place : Nat
  weight : Nat
  sum : Nat
  read : List Char

/-- Take in a digit. The last digit of a number puts a character in. -/
def Reader.digit? (r : Reader) (d : Nat) : Option Reader :=
  let t := threshold r.bias r.place
  let sum := r.sum + d * r.weight
  if t ≤ d then some { r with place := r.place + 36, weight := r.weight * (36 - t), sum := sum }
  else
    let characters := r.read.length + 1
    let point := r.point + sum / characters
    let index := sum % characters
    if h : point.isValidChar then
      some
        { point := point
          index := index + 1
          bias := Punycode.bias (sum - r.index) characters (r.index = 0)
          place := 36
          weight := 1
          sum := index + 1
          read := r.read.take index ++ Char.ofNatAux point h :: r.read.drop index }
    else none

/-- The ASCII characters in front and the digits behind the last hyphen. -/
def split (text : List Char) : List Char × List Char :=
  let back := text.reverse
  let basic := ((back.dropWhile (· ≠ '-')).drop 1).reverse
  if basic.isEmpty then ([], text) else (basic, (back.takeWhile (· ≠ '-')).reverse)

/-- The label that a text was written for. -/
def decode? (text : List Char) : Option (List Char) := do
  let (basic, rest) := split text
  let numbers ← rest.mapM digitValue?
  let start : Reader := ⟨0x80, 0, 72, 36, 1, 0, basic⟩
  let r ← numbers.foldlM Reader.digit? start
  if r.place = 36 then some r.read else none

end OrgConsole.Punycode
