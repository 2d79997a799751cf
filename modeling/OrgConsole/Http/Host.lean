import OrgConsole.Http.PercentEncoding
import OrgConsole.Http.Punycode
import OrgConsole.Text.CaseFold
import OrgConsole.Text.Property.Extending
import OrgConsole.Text.Property.SpacingMark
import OrgConsole.Text.Property.Unprintable
/-!
# Hosts

The host of a special scheme is an address of version 6 in brackets, an address of version 4, or a
domain. A domain that ends in a number must be an address. A domain is kept in lower case, and a
label with characters beyond ASCII in its ASCII form.
-/

namespace OrgConsole

/-- Who answers at a URL. -/
inductive Host
  | domain (name : String)
  | ipv4 (address : Nat)
  /-- Eight pieces of sixteen bits. -/
  | ipv6 (pieces : List Nat)
deriving DecidableEq, Repr

namespace Host

/-- A text cut at every `sep`. -/
def splitAt (sep : Char) : List Char → List (List Char)
  | [] => [[]]
  | c :: rest =>
    match splitAt sep rest with
    | [] => [[c]]
    | part :: parts => if c = sep then [] :: part :: parts else (c :: part) :: parts

/-- The number that digits stand for in a base. -/
def ofDigits (base : Nat) (digits : List Nat) : Nat :=
  digits.foldl (fun n d => n * base + d) 0

/-! ## Addresses of version 4 -/

/-- A part of an address: decimal, octal after `0`, or in base sixteen after `0x`. -/
def ipv4Number? (cs : List Char) : Option Nat :=
  let inBase (base : Nat) (ds : List Char) : Option Nat :=
    (ds.mapM fun c => (PercentEncoding.hexValue? c).filter (· < base)).map (ofDigits base)
  match cs with
  | [] => none
  | '0' :: 'x' :: ds => inBase 16 ds
  | '0' :: 'X' :: ds => inBase 16 ds
  | '0' :: d :: ds => inBase 8 (d :: ds)
  | ds => inBase 10 ds

/-- The parts of a domain without an empty last one. -/
def domainParts (cs : List Char) : List (List Char) :=
  let parts := splitAt '.' cs
  if 1 < parts.length && parts.getLast? = some [] then parts.dropLast else parts

/-- A domain whose last part is a number can only be an address. -/
def endsInNumber (cs : List Char) : Bool :=
  match (domainParts cs).getLast? with
  | some last => (!last.isEmpty && last.all Char.isDigit) || (ipv4Number? last).isSome
  | none => false

/-- An address of up to four numbers, of which the last fills the bytes that are left. -/
def ipv4? (cs : List Char) : Option Nat := do
  let parts := domainParts cs
  if 4 < parts.length then none
  let numbers ← parts.mapM ipv4Number?
  let last ← numbers.getLast?
  let front := numbers.dropLast
  if 1 <<< (32 - 8 * front.length) ≤ last then none
  if front.any (255 < ·) then none
  return last + ofDigits 256 front <<< (8 * (4 - front.length))

/-- Four numbers with points between them. -/
def ipv4Text (n : Nat) : List Char :=
  ['.'].intercalate ([24, 16, 8, 0].map fun bits => Nat.toDigits 10 (n >>> bits % 256))

/-! ## Addresses of version 6 -/

/-- A piece of one to four digits. -/
def piece? (cs : List Char) : Option Nat :=
  if cs.isEmpty || 4 < cs.length then none else (cs.mapM PercentEncoding.hexValue?).map (ofDigits 16)

/-- Two pieces from four decimal numbers without leading zeros. -/
def embeddedPieces? (cs : List Char) : Option (List Nat) := do
  let parts := splitAt '.' cs
  if parts.length ≠ 4 then none
  let numbers ← parts.mapM fun ds =>
    if ds.isEmpty || !ds.all Char.isDigit || (1 < ds.length && ds.head? = some '0') then none
    else (ds.mapM PercentEncoding.hexValue?).map (ofDigits 10)
  if numbers.any (255 < ·) then none
  let n := ofDigits 256 numbers
  return [n / 0x10000, n % 0x10000]

/-- The pieces between colons; the last may be embedded. -/
def pieces? : List (List Char) → Option (List Nat)
  | [] => some []
  | [last] => if last.contains '.' then embeddedPieces? last else (piece? last).map ([·])
  | p :: rest => do return (← piece? p) :: (← pieces? rest)

/-- The first place of two colons, as the text before and the text after. -/
def splitGap : List Char → Option (List Char × List Char)
  | [] => none
  | ':' :: ':' :: rest => some ([], rest)
  | c :: rest => (splitGap rest).map fun (a, b) => (c :: a, b)

/-- Pieces of a text that may be empty. -/
def somePieces? (cs : List Char) (last : Bool) : Option (List Nat) :=
  if cs.isEmpty then some []
  else if last || !cs.contains '.' then pieces? (splitAt ':' cs) else none

/-- Eight pieces, of which a gap may stand for one or more zeros. -/
def ipv6? (cs : List Char) : Option (List Nat) :=
  match splitGap cs with
  | none => (pieces? (splitAt ':' cs)).filter (·.length = 8)
  | some (before, after) => do
    let a ← somePieces? before false
    let b ← somePieces? after true
    if 7 < a.length + b.length then none
    else return a ++ List.replicate (8 - a.length - b.length) 0 ++ b

/-- How many zeros a list begins with. -/
def zeroRun (pieces : List Nat) : Nat :=
  (pieces.takeWhile (· = 0)).length

/-- Where the first longest run of zeros starts, and its length. -/
def longestZeroRun (pieces : List Nat) : Nat × Nat :=
  (List.range pieces.length).foldl (fun best i =>
    let run := zeroRun (pieces.drop i)
    if best.2 < run then (i, run) else best) (0, 0)

/-- Pieces in base sixteen with colons between them; the first longest run of two zeros or more is
left out. -/
def ipv6Text (pieces : List Nat) : List Char :=
  let join (ps : List Nat) : List Char := [':'].intercalate (ps.map (Nat.toDigits 16))
  let (start, run) := longestZeroRun pieces
  if run < 2 then join pieces
  else join (pieces.take start) ++ [':', ':'] ++ join (pieces.drop (start + run))

/-! ## Domains -/

/-- Characters that a domain may not have. -/
def forbiddenInDomain (c : Char) : Bool :=
  c.toNat ≤ 0x20 || c.toNat = 0x7f || ['%', '#', '/', ':', '<', '>', '?', '@', '[', '\\', ']', '^', '|'].contains c

/-- Characters that a domain name is read without. -/
def ignoredInDomain (c : Char) : Bool :=
  c = '\u00ad' || c = '\u200b' || c = '\u2060' || c = '\ufeff' || (0xfe00 ≤ c.toNat && c.toNat ≤ 0xfe0f)

/-- A character as a domain name takes it: full-width forms as their ASCII, other stops as points. -/
def domainChar (c : Char) : Char :=
  if 0xff01 ≤ c.toNat && c.toNat ≤ 0xff5e then Char.ofNat (c.toNat - 0xfee0)
  else if c = '\u3002' || c = '\uff61' then '.'
  else c

/-- A character that a label may have. -/
def inLabel (c : Char) : Bool :=
  !forbiddenInDomain c && (c.toNat < 0x80 || !Text.unprintable.has c)

/-- A label beyond ASCII, which no mark may begin. -/
def validLabel (label : List Char) : Bool :=
  label.all inLabel && !(label.head?.any fun c => Text.extending.has c || Text.spacingMark.has c)

/-- What comes before a label that is written in ASCII for one beyond it. -/
def encodedMark : List Char :=
  ['x', 'n', '-', '-']

/-- A label in its ASCII form. One that already has that form must stand for a label beyond ASCII. -/
def labelToAscii? (label : List Char) : Option (List Char) :=
  if label.all (·.toNat < 0x80) then
    if encodedMark.isPrefixOf label then do
      let inner ← Punycode.decode? (label.drop encodedMark.length)
      if inner.all (·.toNat < 0x80) || !validLabel inner || Text.lowercase inner ≠ inner then none
      else some label
    else if label.all inLabel then some label
    else none
  else if validLabel label then some (encodedMark ++ Punycode.encode label)
  else none

/-- A domain in its ASCII form. -/
def domainToAscii? (cs : List Char) : Option (List Char) := do
  let cs := Text.lowercase ((cs.filter (!ignoredInDomain ·)).map domainChar)
  return ['.'].intercalate (← (splitAt '.' cs).mapM labelToAscii?)

/-- The host of a special scheme. -/
def read? (cs : List Char) : Option Host :=
  match cs with
  | '[' :: rest =>
    if rest.getLast? = some ']' then (ipv6? rest.dropLast).map .ipv6 else none
  | cs => do
    let text ← String.fromUTF8? ⟨(PercentEncoding.decode cs).toArray⟩
    let name ← domainToAscii? text.toList
    if name.isEmpty then none
    if endsInNumber name then (ipv4? name).map .ipv4
    else return .domain (String.ofList name)

/-- Characters that no host may have. -/
def forbidden (c : Char) : Bool :=
  ['\x00', '\t', '\n', '\r', ' ', '#', '/', ':', '<', '>', '?', '@', '[', '\\', ']', '^', '|'].contains c

/-- The host of a scheme that is not special. -/
def readOpaque? (cs : List Char) : Option Host :=
  match cs with
  | '[' :: rest =>
    if rest.getLast? = some ']' then (ipv6? rest.dropLast).map .ipv6 else none
  | cs =>
    if cs.any forbidden then none
    else some (.domain (String.ofList (PercentEncoding.encode PercentEncoding.inOpaqueHost cs)))

/-- A host as it stands in a URL. -/
def text : Host → List Char
  | domain name => name.toList
  | ipv4 n => ipv4Text n
  | ipv6 pieces => '[' :: (ipv6Text pieces ++ [']'])

end Host

end OrgConsole
