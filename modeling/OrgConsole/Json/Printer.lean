import OrgConsole.Json.Value
/-!
# Writing JSON text

`compress` writes a value on one line without blanks, `pretty` over several lines with two spaces
for each level. In a string the quote, the backslash and the control characters below U+0020 are
escaped and nothing else is.
-/

namespace OrgConsole.Json

/-- The digit of a number below sixteen. -/
def hexDigit (n : Nat) : Char :=
  if n < 10 then Char.ofNat ('0'.toNat + n) else Char.ofNat ('a'.toNat + (n - 10))

/-- A character as it stands between quotes. -/
def escape (c : Char) : List Char :=
  if c = '"' then ['\\', '"']
  else if c = '\\' then ['\\', '\\']
  else if c = '\x08' then ['\\', 'b']
  else if c = '\x0c' then ['\\', 'f']
  else if c = '\n' then ['\\', 'n']
  else if c = '\r' then ['\\', 'r']
  else if c = '\t' then ['\\', 't']
  else if c.toNat < 0x20 then ['\\', 'u', '0', '0', hexDigit (c.toNat / 16), hexDigit (c.toNat % 16)]
  else [c]

/-- A string in quotes. -/
def quote (s : String) : List Char :=
  '"' :: (s.toList.flatMap escape ++ ['"'])

/-- A number: an integer by its digits, a decimal by its coefficient and its power of ten. -/
def numberText : Number → List Char
  | .integer n => (toString n).toList
  | .decimal negative c e =>
    (if negative then ['-'] else []) ++ (toString c).toList ++ 'e' :: (toString e).toList

mutual

/-- The characters of a value, without blanks; a fault has none. -/
def text : Json → List Char
  | null => ['n', 'u', 'l', 'l']
  | bool true => ['t', 'r', 'u', 'e']
  | bool false => ['f', 'a', 'l', 's', 'e']
  | number n => numberText n
  | string s => quote s
  | array items => '[' :: (textItems items ++ [']'])
  | object members => '\x7b' :: (textMembers members ++ ['\x7d'])
  | fault _ _ => []

/-- Items with commas between them. -/
def textItems : List Json → List Char
  | [] => []
  | [v] => v.text
  | v :: rest => v.text ++ ',' :: textItems rest

/-- Members with commas between them. -/
def textMembers : List (String × Json) → List Char
  | [] => []
  | [(k, v)] => quote k ++ ':' :: v.text
  | (k, v) :: rest => quote k ++ ':' :: v.text ++ ',' :: textMembers rest

end

/-- A value on one line. -/
def compress (v : Json) : String :=
  String.ofList v.text

/-! ## Over several lines -/

/-- A new line at a level. -/
def newLine (level : Nat) : List Char :=
  '\n' :: List.replicate (2 * level) ' '

mutual

/-- The characters of a value whose first line stands at `level`. -/
def prettyText (level : Nat) : Json → List Char
  | array [] => ['[', ']']
  | array items => '[' :: (prettyItems (level + 1) items ++ newLine level ++ [']'])
  | object [] => ['\x7b', '\x7d']
  | object members => '\x7b' :: (prettyMembers (level + 1) members ++ newLine level ++ ['\x7d'])
  | v => v.text

/-- Items, each on lines of its own. -/
def prettyItems (level : Nat) : List Json → List Char
  | [] => []
  | [v] => newLine level ++ v.prettyText level
  | v :: rest => newLine level ++ v.prettyText level ++ ',' :: prettyItems level rest

/-- Members, each on lines of its own. -/
def prettyMembers (level : Nat) : List (String × Json) → List Char
  | [] => []
  | [(k, v)] => newLine level ++ quote k ++ ':' :: ' ' :: v.prettyText level
  | (k, v) :: rest => newLine level ++ quote k ++ ':' :: ' ' :: v.prettyText level ++ ',' :: prettyMembers level rest

end

/-- A value over several lines. -/
def pretty (v : Json) : String :=
  String.ofList (v.prettyText 0)

end OrgConsole.Json
