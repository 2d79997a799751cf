import OrgConsole.Toml.Value
/-!
# TOML scalars

Numbers, words and moments are read from a word as a whole, so what follows a word never changes
what it stands for. Strings are read from the text after their opening quotes.
-/

namespace OrgConsole.Toml

/-! ## Digits -/

def digitValue (c : Char) : Nat := c.toNat - '0'.toNat

/-- The value of a digit in a base of at most sixteen. -/
def digitIn? (base : Nat) (c : Char) : Option Nat :=
  let value :=
    if '0' ≤ c && c ≤ '9' then some (c.toNat - '0'.toNat)
    else if 'a' ≤ c && c ≤ 'f' then some (c.toNat - 'a'.toNat + 10)
    else if 'A' ≤ c && c ≤ 'F' then some (c.toNat - 'A'.toNat + 10)
    else none
  value.filter (· < base)

/-- Digits of a base, between any two of which an underscore may stand. -/
def digits? (base : Nat) : List Char → Option (List Nat)
  | [] => none
  | [c] => (digitIn? base c).map ([·])
  | c :: '_' :: rest => do return (← digitIn? base c) :: (← digits? base rest)
  | c :: rest => do return (← digitIn? base c) :: (← digits? base rest)

/-- The number that digits stand for in a base. -/
def ofDigits (base : Nat) (ds : List Nat) : Nat :=
  ds.foldl (fun n d => n * base + d) 0

/-- A sign in front of a text, which is negative or not. -/
def splitSign : List Char → Bool × List Char
  | '-' :: rest => (true, rest)
  | '+' :: rest => (false, rest)
  | cs => (false, cs)

/-- Decimal digits without a needless zero in front. -/
def wholeDigits? (cs : List Char) : Option (List Nat) :=
  match cs with
  | ['0'] => some [0]
  | '0' :: _ => none
  | cs => digits? 10 cs

/-! ## Numbers -/

/-- The integers that there are. -/
def boundedInteger? (n : Int) : Option Toml :=
  if -0x8000000000000000 ≤ n && n ≤ 0x7fffffffffffffff then some (.integer n) else none

def integer? (cs : List Char) : Option Toml :=
  match cs with
  | '0' :: 'x' :: ds => do boundedInteger? (ofDigits 16 (← digits? 16 ds))
  | '0' :: 'o' :: ds => do boundedInteger? (ofDigits 8 (← digits? 8 ds))
  | '0' :: 'b' :: ds => do boundedInteger? (ofDigits 2 (← digits? 2 ds))
  | cs => do
    let (negative, cs) := splitSign cs
    let n := ofDigits 10 (← wholeDigits? cs)
    boundedInteger? (if negative then -n else n)

/-- A text cut at the first character of a kind. -/
def cutAt (p : Char → Bool) (cs : List Char) : List Char × Option (List Char) :=
  (cs.takeWhile (!p ·), (cs.dropWhile (!p ·)).tail?)

/-- The power of ten after an `e`. -/
def exponent? : Option (List Char) → Option Int
  | none => some 0
  | some cs => do
    let (negative, cs) := splitSign cs
    let n := ofDigits 10 (← digits? 10 cs)
    return if negative then -n else n

/-- The double `± c · 10 ^ e`; none if it is too large and positive. -/
def double? (negative : Bool) (c : Nat) (e : Int) : Option Toml :=
  let size := (Nat.toDigits 10 c).length
  let x := if e < -400 - size then 0.0
    else if 400 < e && c ≠ 0 then Float.ofScientific 1 false 400
    else if c = 0 then 0.0
    else Float.ofScientific c (e < 0) e.natAbs
  if x.isInf && !negative then none else some (.float (if negative then -x else x))

/-- A float has a fraction, an exponent or both. -/
def float? (cs : List Char) : Option Toml := do
  let (negative, unsigned) := splitSign cs
  match unsigned with
  | ['i', 'n', 'f'] => return .float (if negative then -(1.0 / 0.0) else 1.0 / 0.0)
  | ['n', 'a', 'n'] => return .float (0.0 / 0.0)
  | _ =>
    let (mantissa, power) := cutAt (fun c => c = 'e' || c = 'E') unsigned
    let (whole, fraction) := cutAt (· = '.') mantissa
    if power.isNone && fraction.isNone then none
    let wholeDs ← wholeDigits? whole
    let fractionDs ← fraction.elim (some []) (digits? 10)
    double? negative (ofDigits 10 (wholeDs ++ fractionDs)) ((← exponent? power) - fractionDs.length)

/-! ## Moments -/

/-- A number of exactly so many decimal digits, up to a bound. -/
def field? (size low high : Nat) (cs : List Char) : Option Nat :=
  if cs.length = size && cs.all Char.isDigit then
    (some (ofDigits 10 (cs.map digitValue))).filter fun n => low ≤ n && n ≤ high
  else none

def isLeap (year : Nat) : Bool :=
  year % 4 == 0 && (year % 100 != 0 || year % 400 == 0)

def daysIn (year month : Nat) : Nat :=
  if month = 2 then (if isLeap year then 29 else 28)
  else if [4, 6, 9, 11].contains month then 30 else 31

/-- Whether a text is a date: year, month and day with hyphens. -/
def isDate (cs : List Char) : Bool :=
  match cs with
  | [a, b, c, d, '-', e, f, '-', g, h] =>
    (do
      let year ← field? 4 0 9999 [a, b, c, d]
      let month ← field? 2 1 12 [e, f]
      field? 2 1 (daysIn year month) [g, h]).isSome
  | _ => false

/-- The fraction of a second to nine places, without zeros at its end. -/
def fraction? (cs : List Char) : Option (List Char) :=
  match cs with
  | [] => some []
  | '.' :: ds =>
    if ds.isEmpty || !ds.all Char.isDigit then none
    else
      let kept := ((ds.take 9).reverse.dropWhile (· = '0')).reverse
      some (if kept.isEmpty then [] else '.' :: kept)
  | _ => none

/-- A time in its plain form. -/
def time? (cs : List Char) : Option (List Char) :=
  match cs with
  | a :: b :: ':' :: c :: d :: ':' :: e :: f :: rest => do
    let _ ← field? 2 0 23 [a, b]
    let _ ← field? 2 0 59 [c, d]
    let _ ← field? 2 0 60 [e, f]
    return [a, b, ':', c, d, ':', e, f] ++ (← fraction? rest)
  | _ => none

/-- An offset from universal time in its plain form; one of zero hours and minutes has a plus. -/
def offset? (cs : List Char) : Option (List Char) :=
  match cs with
  | [] => some []
  | ['Z'] | ['z'] => some ['Z']
  | [sign, a, b, ':', c, d] => do
    if sign ≠ '+' && sign ≠ '-' then none
    let _ ← field? 2 0 23 [a, b]
    let _ ← field? 2 0 59 [c, d]
    return (if [a, b, c, d].all (· = '0') then '+' else sign) :: [a, b, ':', c, d]
  | _ => none

/-- A date, a time, or a date and a time with or without an offset. -/
def moment? (cs : List Char) : Option Toml :=
  let date := cs.take 10
  if isDate date then
    match cs.drop 10 with
    | [] => some (.moment (String.ofList date))
    | c :: rest => do
      if c ≠ 'T' && c ≠ 't' && c ≠ ' ' then none
      let inTime (c : Char) : Bool := c.isDigit || c = ':' || c = '.'
      let time ← time? (rest.takeWhile inTime)
      let offset ← offset? (rest.dropWhile inTime)
      return .moment (String.ofList (date ++ 'T' :: time ++ offset))
  else (time? cs).map fun t => .moment (String.ofList t)

/-! ## Words -/

/-- A character of a number, a word or a moment. -/
def inWord (c : Char) : Bool :=
  c.isAlphanum || c = '+' || c = '-' || c = '_' || c = '.' || c = ':'

/-- What a word stands for. -/
def word? (cs : List Char) : Option Toml :=
  if cs = "true".toList then some (.boolean true)
  else if cs = "false".toList then some (.boolean false)
  else moment? cs <|> float? cs <|> integer? cs

/-- The word at the front of a text. After a date a blank and a digit go on with the word. -/
def splitWord (cs : List Char) : List Char × List Char :=
  let (word, rest) := cs.span inWord
  match rest with
  | ' ' :: c :: more =>
    if isDate word && c.isDigit then
      let (time, rest) := (c :: more).span inWord
      (word ++ ' ' :: time, rest)
    else (word, rest)
  | _ => (word, rest)

/-! ## Strings -/

/-- A character that may stand in comments and in strings. -/
def isPlain (c : Char) : Bool :=
  c = '\t' || (0x20 ≤ c.toNat && c ≠ '\x7f')

/-- The character of so many digits in base sixteen, and the rest. -/
def codePoint? (size : Nat) (cs : List Char) : Option Char := do
  let ds := cs.take size
  if ds.length ≠ size then none
  let n := ofDigits 16 (← ds.mapM (digitIn? 16))
  if n.isValidChar then some (Char.ofNat n) else none

/-- The character of a letter after a backslash. -/
def escape? : Char → Option Char
  | 'b' => some '\x08'
  | 't' => some '\t'
  | 'n' => some '\n'
  | 'f' => some '\x0c'
  | 'r' => some '\r'
  | '"' => some '"'
  | '\\' => some '\\'
  | _ => none

/-- What may stand in a string. -/
structure StringStyle where
  quote : Char
  /-- Whether a backslash escapes. -/
  escapes : Bool
  /-- Whether it goes over lines, and ends at three quotes. -/
  long : Bool

/-- A string's end after a quote: how many more quotes belong to it, and the rest. -/
def closing? (style : StringStyle) (rest : List Char) : Option (List Char × List Char) :=
  if !style.long then some ([], rest)
  else
    let q := style.quote
    let more := (rest.takeWhile (· = q)).length
    if 2 ≤ more && more ≤ 4 then some (List.replicate (more - 2) q, rest.drop more) else none

/-- A text from its first character that is neither blank nor a line break. -/
def skipLines : List Char → List Char
  | ' ' :: rest => skipLines rest
  | '\t' :: rest => skipLines rest
  | '\n' :: rest => skipLines rest
  | '\r' :: '\n' :: rest => skipLines rest
  | cs => cs

/-- Skip blanks and line breaks; none if the first line is not blank. -/
def skipLineEnd? (cs : List Char) : Option (List Char) :=
  match cs.dropWhile fun c => c = ' ' || c = '\t' with
  | '\n' :: rest => some (skipLines rest)
  | '\r' :: '\n' :: rest => some (skipLines rest)
  | _ => none

/-- The characters of a string from behind its opening quotes, and the rest. -/
def stringBody? (style : StringStyle) : (fuel : Nat) → List Char → Option (List Char × List Char)
  | 0, _ => none
  | _ + 1, [] => none
  | fuel + 1, c :: rest =>
    let put (c : Char) (rest : List Char) : Option (List Char × List Char) :=
      (stringBody? style fuel rest).map fun (s, rest) => (c :: s, rest)
    if c = style.quote then
      match closing? style rest with
      | some (s, rest) => some (s, rest)
      | none => if (rest.takeWhile (· = c)).length < 2 then put c rest else none
    else if c = '\\' && style.escapes then
      match rest with
      | 'u' :: rest => do put (← codePoint? 4 rest) (rest.drop 4)
      | 'U' :: rest => do put (← codePoint? 8 rest) (rest.drop 8)
      | e :: more =>
        match escape? e with
        | some x => put x more
        | none => if style.long then do stringBody? style fuel (← skipLineEnd? rest) else none
      | [] => none
    else if c = '\n' && style.long then put '\n' rest
    else if c = '\r' && style.long then
      match rest with
      | '\n' :: rest => put '\n' rest
      | _ => none
    else if isPlain c then put c rest
    else none

/-- A text without the line break that it begins with. -/
def dropLineBreak : List Char → List Char
  | '\n' :: rest => rest
  | '\r' :: '\n' :: rest => rest
  | cs => cs

/-- A string with a quote at its front. -/
def string? (quote : Char) (cs : List Char) : Option (String × List Char) :=
  let escapes := quote = '"'
  let body := match cs with
    | a :: b :: c :: rest =>
      if a = quote && b = quote && c = quote then
        stringBody? ⟨quote, escapes, true⟩ (cs.length + 1) (dropLineBreak rest)
      else stringBody? ⟨quote, escapes, false⟩ (cs.length + 1) (b :: c :: rest)
    | _ :: rest => stringBody? ⟨quote, escapes, false⟩ (cs.length + 1) rest
    | [] => none
  body.map fun (s, rest) => (String.ofList s, rest)

end OrgConsole.Toml
