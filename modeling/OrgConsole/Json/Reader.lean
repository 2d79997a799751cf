import OrgConsole.Json.Value
/-!
# Reading JSON text

`Json.read` reads a text to its end or to its first fault. It never fails: what is wrong with the
text is in the value (`Json.fault`), and the flag beside the value says whether anything follows it.
The rest of the text is passed on by every function, so a printed value in front of any text can be
read back from it.
-/

namespace OrgConsole.Json

/-! ## Blanks and digits -/

/-- The characters that may stand between the parts of a JSON text. -/
def isBlank (c : Char) : Bool :=
  c = ' ' || c = '\n' || c = '\t' || c = '\r'

def skipBlank (cs : List Char) : List Char :=
  cs.dropWhile isBlank

/-- The value of a decimal digit. -/
def digitValue (c : Char) : Nat :=
  c.toNat - '0'.toNat

/-- Digits taken into a coefficient of at most 64 bits, with the number of digits that went in and
of those left over; the first digit that does not fit stops the taking. -/
def absorb (coefficient taken : Nat) : List Char → Nat × Nat × Nat
  | [] => (coefficient, taken, 0)
  | c :: rest =>
    let next := coefficient * 10 + digitValue c
    if next < 2 ^ 64 then absorb next (taken + 1) rest
    else (coefficient, taken, rest.length + 1)

/-- The value of a digit in base sixteen. -/
def hexValue? (c : Char) : Option Nat :=
  if '0' ≤ c && c ≤ '9' then some (c.toNat - '0'.toNat)
  else if 'a' ≤ c && c ≤ 'f' then some (c.toNat - 'a'.toNat + 10)
  else if 'A' ≤ c && c ≤ 'F' then some (c.toNat - 'A'.toNat + 10)
  else none

/-! ## Numbers -/

/-- A number without fraction and exponent. -/
def integerOf (negative : Bool) (digits : List Char) : Number :=
  let (c, _, left) := absorb 0 0 digits
  if left ≠ 0 then .decimal negative c left
  else if negative then
    if 0 < c && Number.least ≤ -(c : Int) then .integer (-(c : Int)) else .decimal true c 0
  else .integer c

/-- A number with a fraction or an exponent: the digits of both parts, then the power of ten. -/
def decimalOf (negative : Bool) (digits fraction : List Char) (exponent : Int) : Number :=
  let (c, _, left) := absorb 0 0 digits
  let (c, taken, _) := absorb c 0 fraction
  .decimal negative c ((left : Int) - taken + exponent)

/-- The fault of a number that has no digit where it needs one. -/
def noDigit (cs : List Char) : Json × List Char :=
  (.fault (if cs.isEmpty then .digit else .value false) .null, [])

/-- The exponent of a number, after its mark: the sign and the digits. -/
def readExponent (cs : List Char) (found : Int → Number) : Json × List Char :=
  let (negative, cs) := match cs with
    | '+' :: r => (false, r)
    | '-' :: r => (true, r)
    | r => (false, r)
  match cs.takeWhile Char.isDigit with
  | [] => noDigit cs
  | ds =>
    let e : Int := ds.foldl (fun n c => n * 10 + digitValue c) 0
    (.number (found (if negative then -e else e)), cs.dropWhile Char.isDigit)

/-- A number, after its sign. -/
def readNumber (negative : Bool) (cs : List Char) : Json × List Char :=
  match cs.takeWhile Char.isDigit, cs.dropWhile Char.isDigit with
  | [], _ => noDigit cs
  | '0' :: _ :: _, _ => (.fault (.value false) .null, [])
  | digits, '.' :: rest =>
    match rest.takeWhile Char.isDigit, rest.dropWhile Char.isDigit with
    | [], _ => noDigit rest
    | fraction, 'e' :: r => readExponent r (decimalOf negative digits fraction)
    | fraction, 'E' :: r => readExponent r (decimalOf negative digits fraction)
    | fraction, r => (.number (decimalOf negative digits fraction 0), r)
  | digits, 'e' :: r => readExponent r (decimalOf negative digits [])
  | digits, 'E' :: r => readExponent r (decimalOf negative digits [])
  | digits, r => (.number (integerOf negative digits), r)

/-! ## Strings -/

/-- The end of reading a quoted text: its characters in reverse, whether its surrogates pair up, and
what follows; or whether the text ended before the closing mark. -/
inductive Quoted
  | closed (reversed : List Char) (paired : Bool) (rest : List Char)
  | broken (ended paired : Bool)
deriving Repr

/-- The character that a one-letter escape stands for. -/
def plainEscape? : Char → Option Char
  | '"' => some '"'
  | '\\' => some '\\'
  | '/' => some '/'
  | 'b' => some '\x08'
  | 'f' => some '\x0c'
  | 'n' => some '\n'
  | 'r' => some '\r'
  | 't' => some '\t'
  | _ => none

/-- The first half of a surrogate pair. -/
def isHighSurrogate (n : Nat) : Bool := 0xD800 ≤ n && n ≤ 0xDBFF

/-- The second half of a surrogate pair. -/
def isLowSurrogate (n : Nat) : Bool := 0xDC00 ≤ n && n ≤ 0xDFFF

/-- Where a reader stands within a quoted text. -/
inductive Within
  /-- Between characters. -/
  | text
  /-- After a backslash. -/
  | escape
  /-- After `count` digits of an escape by number; `high` is a half that waits for this one. -/
  | hex (high : Option Nat) (count value : Nat)
  /-- After the first half of a surrogate pair. -/
  | high (n : Nat)
  /-- After the first half of a surrogate pair and a backslash. -/
  | highEscape (n : Nat)
deriving Repr

/-- What is read of a quoted text so far: the characters in reverse, and whether its surrogates
pair up. -/
structure Taken where
  reversed : List Char
  paired : Bool
deriving Repr

/-- Take a character. -/
def Taken.push (t : Taken) (c : Char) : Taken :=
  { t with reversed := c :: t.reversed }

/-- Note half a pair without the other. -/
def Taken.lone (t : Taken) : Taken :=
  { t with paired := false }

/-- Take an escape by number that no half waits for. -/
def Taken.unit (t : Taken) (n : Nat) : Within × Taken :=
  if isLowSurrogate n then (.text, t.lone)
  else if isHighSurrogate n then (.high n, t)
  else (.text, t.push (Char.ofNat n))

/-- Take an escape by number after the half `high`. -/
def Taken.pair (t : Taken) (high n : Nat) : Within × Taken :=
  if isLowSurrogate n then
    (.text, t.push (Char.ofNat (0x10000 + (high - 0xD800) * 0x400 + (n - 0xDC00))))
  else t.lone.unit n

/-- Read a quoted text after its opening mark, one character at a time. -/
def readQuoted (state : Within) (t : Taken) : List Char → Quoted
  | [] => .broken true t.paired
  | c :: rest =>
    match state with
    | .text =>
      if c = '"' then .closed t.reversed t.paired rest
      else if c = '\\' then readQuoted .escape t rest
      else if c.toNat < 0x20 then .broken false t.paired
      else readQuoted .text (t.push c) rest
    | .escape =>
      if c = 'u' then readQuoted (.hex none 0 0) t rest
      else match plainEscape? c with
        | some x => readQuoted .text (t.push x) rest
        | none => .broken false t.paired
    | .hex high count value =>
      match hexValue? c with
      | none => .broken (count + ((c :: rest).map fun c => c.utf8Size).sum < 4) t.paired
      | some d =>
        let n := value * 16 + d
        if count < 3 then readQuoted (.hex high (count + 1) n) t rest
        else match high with
          | none => readQuoted (t.unit n).1 (t.unit n).2 rest
          | some h => readQuoted (t.pair h n).1 (t.pair h n).2 rest
    | .high n =>
      if c = '\\' then readQuoted (.highEscape n) t rest
      else if c = '"' then .closed t.reversed false rest
      else if c.toNat < 0x20 then .broken false false
      else readQuoted .text (t.lone.push c) rest
    | .highEscape n =>
      if c = 'u' then readQuoted (.hex (some n) 0 0) t rest
      else match plainEscape? c with
        | some x => readQuoted .text (t.lone.push x) rest
        | none => .broken false false

/-- Read a string after its opening mark. -/
def readString (cs : List Char) : Quoted :=
  readQuoted .text ⟨[], true⟩ cs

/-- A quoted text as a value, with what follows it. -/
def Quoted.toValue : Quoted → Json × List Char
  | .closed cs true rest => (.string (String.ofList cs.reverse), rest)
  | .closed cs false rest => (.fault .surrogate (.string (String.ofList cs.reverse)), rest)
  | .broken ended true => (.fault (.value ended) .null, [])
  | .broken ended false => (.fault .surrogate (.fault (.value ended) .null), [])

/-! ## Values -/

/-- Read the letters of a word, to give `v`. -/
def readWord (v : Json) : List Char → List Char → Json × List Char
  | [], rest => (v, rest)
  | _, [] => (.fault (.value true) .null, [])
  | w :: word, c :: rest =>
    if w = c then readWord v word rest else (.fault (.value false) .null, [])

/-- A member whose key cannot be read. -/
def badKey (ended : Bool) : String × Json :=
  ("", .fault .key (.fault (.value ended) .null))

mutual

/-- Read one value; `fuel` bounds the number of values within it. -/
def readValue : (fuel : Nat) → List Char → Json × List Char
  | 0, _ => (.fault (.value false) .null, [])
  | fuel + 1, cs =>
    match skipBlank cs with
    | [] => (.fault (.value true) .null, [])
    | 'n' :: rest => readWord .null ['u', 'l', 'l'] rest
    | 't' :: rest => readWord (.bool true) ['r', 'u', 'e'] rest
    | 'f' :: rest => readWord (.bool false) ['a', 'l', 's', 'e'] rest
    | '"' :: rest => (readString rest).toValue
    | '[' :: rest =>
      match skipBlank rest with
      | [] => (.array [.fault (.follow true) .null], [])
      | ']' :: r => (.array [], r)
      | r =>
        let (items, r) := readItems fuel r
        (.array items, r)
    | '\x7b' :: rest =>
      match skipBlank rest with
      | [] => (.object [badKey true], [])
      | '\x7d' :: r => (.object [], r)
      | r =>
        let (members, r) := readMembers fuel r
        (.object members, r)
    | '-' :: rest => readNumber true rest
    | c :: rest => if c.isDigit then readNumber false (c :: rest) else (.fault (.value false) .null, [])

/-- Read the items of an array, where one is due. -/
def readItems : (fuel : Nat) → List Char → List Json × List Char
  | 0, _ => ([.fault (.value false) .null], [])
  | fuel + 1, cs =>
    let (v, rest) := readValue fuel cs
    match skipBlank rest with
    | [] => ([v, .fault (.follow true) .null], [])
    | ']' :: r => ([v], r)
    | ',' :: r =>
      let (items, r) := readItems fuel r
      (v :: items, r)
    | _ => ([v, .fault (.follow false) .null], [])

/-- Read the members of an object, where one is due. -/
def readMembers : (fuel : Nat) → List Char → List (String × Json) × List Char
  | 0, _ => ([("", .fault (.value false) .null)], [])
  | fuel + 1, cs =>
    match skipBlank cs with
    | [] => ([badKey true], [])
    | '\x7d' :: _ => ([badKey false], [])
    | '"' :: rest =>
      match readString rest with
      | .closed key true rest =>
        let key := String.ofList key.reverse
        match skipBlank rest with
        | [] => ([(key, .fault (.follow true) .null)], [])
        | ':' :: rest =>
          let (v, rest) := readValue fuel rest
          match skipBlank rest with
          | [] => ([(key, v), ("", .fault (.follow true) .null)], [])
          | '\x7d' :: r => ([(key, v)], r)
          | ',' :: r =>
            let (members, r) := readMembers fuel r
            ((key, v) :: members, r)
          | _ => ([(key, v), ("", .fault (.follow false) .null)], [])
        | _ => ([(key, .fault (.follow false) .null)], [])
      | .broken ended true => ([badKey ended], [])
      | _ => ([badKey false], [])
    | cs => ([("", .fault .key (readValue fuel cs).1)], [])

end

/-- The value that a text begins with, and whether nothing but blanks follows it. -/
def read (text : String) : Json × Bool :=
  let cs := text.toList
  let (v, rest) := readValue (cs.length + 1) cs
  (v, (skipBlank rest).isEmpty)

end OrgConsole.Json
