/-!
# Percent-encoding

A character that may not stand for itself in a part of a URL is written as its bytes, each as a
percent sign and two digits in base sixteen. `decode` reads the bytes of a text back; in front of
anything that is not two digits the percent sign stands for itself.
-/

namespace OrgConsole.PercentEncoding

/-- The digit of a number below sixteen, in upper case. -/
def upperHex (n : Nat) : Char :=
  if n < 10 then Char.ofNat ('0'.toNat + n) else Char.ofNat ('A'.toNat + (n - 10))

/-- A byte as a percent sign and two digits. -/
def encodeByte (b : UInt8) : List Char :=
  ['%', upperHex (b.toNat / 16), upperHex (b.toNat % 16)]

/-- A character that stands for itself if `plain` allows it. Only ASCII may be plain. -/
def encodeChar (plain : Char → Bool) (c : Char) : List Char :=
  if c.toNat < 0x80 && plain c then [c] else (String.utf8EncodeChar c).flatMap encodeByte

/-- A text with all but its plain characters encoded. -/
def encode (plain : Char → Bool) (cs : List Char) : List Char :=
  cs.flatMap (encodeChar plain)

/-- The value of a digit in base sixteen. -/
def hexValue? (c : Char) : Option Nat :=
  if '0' ≤ c && c ≤ '9' then some (c.toNat - '0'.toNat)
  else if 'a' ≤ c && c ≤ 'f' then some (c.toNat - 'a'.toNat + 10)
  else if 'A' ≤ c && c ≤ 'F' then some (c.toNat - 'A'.toNat + 10)
  else none

/-- The bytes that an encoded text stands for. -/
def decode : List Char → List UInt8
  | [] => []
  | '%' :: a :: b :: rest =>
    match hexValue? a, hexValue? b with
    | some x, some y => UInt8.ofNat (16 * x + y) :: decode rest
    | _, _ => String.utf8EncodeChar '%' ++ decode (a :: b :: rest)
  | c :: rest => String.utf8EncodeChar c ++ decode rest

/-! ## What is plain in each part of a URL -/

/-- Neither a control character nor a character of `others`. -/
def plainExcept (others : List Char) (c : Char) : Bool :=
  0x20 ≤ c.toNat && c.toNat < 0x7f && !others.contains c

/-- In a path that is read whole. -/
def inPath : Char → Bool :=
  plainExcept [' ', '"', '<', '>', '\x60', '#', '?', '\x7b', '\x7d']

/-- In a single segment of a path; of the special schemes a backslash separates segments too. -/
def inSegment (special : Bool) : Char → Bool :=
  plainExcept ([' ', '"', '<', '>', '\x60', '#', '?', '\x7b', '\x7d', '/', '%'] ++ if special then ['\\'] else [])

/-- In a query. -/
def inQuery (special : Bool) : Char → Bool :=
  plainExcept ([' ', '"', '#', '<', '>'] ++ if special then ['\x27'] else [])

/-- In a fragment. -/
def inFragment : Char → Bool :=
  plainExcept [' ', '"', '<', '>', '\x60']

/-- In the name and the password before a host. -/
def inUserInfo : Char → Bool :=
  plainExcept [' ', '"', '#', '<', '>', '?', '\x60', '\x7b', '\x7d', '/', ':', ';', '=', '@', '[', '\\', ']', '^', '|']

/-- In a host of a scheme that is not special. -/
def inOpaqueHost : Char → Bool :=
  plainExcept []

end OrgConsole.PercentEncoding
