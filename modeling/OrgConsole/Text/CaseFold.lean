import OrgConsole.Text.Property.CaseIgnorable
import OrgConsole.Text.Property.Cased
import OrgConsole.Text.Property.Lowercase
/-!
# Lower case

Lower case is taken of a whole text and not letter by letter: a capital sigma at the end of a word
becomes `ς` and any other `σ`, and a dotted capital I becomes two characters.
-/

namespace OrgConsole.Text

/-- The lower case of a character where its neighbours do not matter. -/
def lowerChar (c : Char) : Char :=
  let n := c.toNat
  if n < 0x80 then
    if 0x41 ≤ n && n ≤ 0x5a then Char.ofNat (n + 0x20) else c
  else
    match lowercaseRuns.find? fun (first, last, step, _) => first ≤ n && n ≤ last && (n - first) % step = 0 with
    | some (_, _, _, shift) => Char.ofNat (n + shift).toNat
    | none => c

/-- Past the characters that case rules look past, the text begins with a cased character. -/
def meetsCased (cs : List Char) : Bool :=
  match cs.dropWhile caseIgnorable.has with
  | c :: _ => cased.has c
  | [] => false

/-- The lower case of a character between the text before it, in reverse, and the text after it. -/
def lowerBetween (before : List Char) (c : Char) (after : List Char) : List Char :=
  if c = 'Σ' then [if meetsCased before && !meetsCased after then 'ς' else 'σ']
  else if c = 'İ' then ['i', '\u0307']
  else [lowerChar c]

/-- The lower case of a text that follows `before`, which is in reverse. -/
def lowerAfter (before : List Char) : List Char → List Char
  | [] => []
  | c :: rest => lowerBetween before c rest ++ lowerAfter (c :: before) rest

/-- The lower case of a text. -/
def lowercase (cs : List Char) : List Char :=
  lowerAfter [] cs

end OrgConsole.Text
