import OrgConsole.Text.Property.Extending
import OrgConsole.Text.Property.Pictographic
import OrgConsole.Text.Property.SpacingMark
/-!
# Clusters of characters

What a reader takes for one character may be several: a letter and its marks, a syllable and its
vowels, a flag, or pictures that are joined. Such a cluster is never split over two cells.
-/

namespace OrgConsole.Text

/-- How a character behaves at the border of a cluster. -/
inductive BreakClass
  | carriageReturn
  | lineFeed
  | control
  | extend
  | joiner
  | regional
  | prepended
  | spacing
  | leading
  | vowel
  | trailing
  /-- A syllable without a final consonant. -/
  | open
  /-- A syllable with a final consonant. -/
  | closed
  | pictograph
  | other
deriving DecidableEq, Repr

/-- Control and format characters, line and paragraph separators. -/
def controlling : CharRanges := [
  (0x0, 0x1f), (0x7f, 0x9f), (0xad, 0xad), (0x61c, 0x61c), (0x180e, 0x180e), (0x200b, 0x200b),
  (0x200e, 0x200f), (0x2028, 0x202e), (0x2060, 0x206f), (0xfeff, 0xfeff), (0xfff0, 0xfffb),
  (0x13430, 0x1343f), (0x1bca0, 0x1bca3), (0x1d173, 0x1d17a), (0xe0000, 0xe001f), (0xe0080, 0xe00ff),
  (0xe01f0, 0xe0fff)]

/-- Characters that begin a cluster with what follows. -/
def prepending : CharRanges := [
  (0x600, 0x605), (0x6dd, 0x6dd), (0x70f, 0x70f), (0x890, 0x891), (0x8e2, 0x8e2), (0xd4e, 0xd4e),
  (0x110bd, 0x110bd), (0x110cd, 0x110cd), (0x111c2, 0x111c3), (0x1193f, 0x1193f), (0x11941, 0x11941),
  (0x11a3a, 0x11a3a), (0x11a84, 0x11a89), (0x11d46, 0x11d46), (0x11f02, 0x11f02)]

/-- The tones of skin, which extend a picture. -/
def isSkinTone (c : Char) : Bool :=
  0x1f3fb ≤ c.toNat && c.toNat ≤ 0x1f3ff

def BreakClass.of (c : Char) : BreakClass :=
  let n := c.toNat
  let within (low high : Nat) : Bool := low ≤ n && n ≤ high
  if c = '\r' then .carriageReturn
  else if c = '\n' then .lineFeed
  else if 0x20 ≤ n && n < 0x7f then .other
  else if n = 0x200d then .joiner
  else if isSkinTone c || extending.has c then .extend
  else if controlling.has c then .control
  else if within 0x1f1e6 0x1f1ff then .regional
  else if prepending.has c then .prepended
  else if spacingMark.has c then .spacing
  else if within 0x1100 0x115f || within 0xa960 0xa97c then .leading
  else if within 0x1160 0x11a7 || within 0xd7b0 0xd7c6 then .vowel
  else if within 0x11a8 0x11ff || within 0xd7cb 0xd7fb then .trailing
  else if within 0xac00 0xd7a3 then (if (n - 0xac00) % 28 = 0 then .open else .closed)
  else if pictographic.has c then .pictograph
  else .other

/-- What a cluster so far says about the next character. -/
structure ClusterEnd where
  last : BreakClass
  /-- It is a picture with what extends it. -/
  picture : Bool
  /-- It is a picture and a joiner. -/
  joined : Bool
  /-- It is the first half of a flag. -/
  halfFlag : Bool
deriving DecidableEq, Repr

namespace ClusterEnd

/-- A cluster of one character. -/
def start (b : BreakClass) : ClusterEnd :=
  ⟨b, b = .pictograph, false, b = .regional⟩

/-- A cluster with one more character. -/
def push (e : ClusterEnd) (b : BreakClass) : ClusterEnd :=
  ⟨b, b = .pictograph || (e.picture && b = .extend), e.picture && b = .joiner, b = .regional && !e.halfFlag⟩

/-- Whether a character goes on with a cluster. -/
def joins (e : ClusterEnd) (b : BreakClass) : Bool :=
  match e.last, b with
  | .carriageReturn, b => b = .lineFeed
  | .lineFeed, _ | .control, _ => false
  | _, .carriageReturn | _, .lineFeed | _, .control => false
  | _, .extend | _, .joiner | _, .spacing => true
  | .prepended, _ => true
  | .leading, b => [.leading, .vowel, .open, .closed].contains b
  | .vowel, b | .open, b => b = .vowel || b = .trailing
  | .trailing, b | .closed, b => b = .trailing
  | _, .pictograph => e.joined
  | _, .regional => e.halfFlag
  | _, _ => false

end ClusterEnd

/-- The clusters of a text after a cluster that may go on. -/
def clustersFrom (e : ClusterEnd) (cluster : List Char) : List Char → List (List Char)
  | [] => [cluster]
  | c :: rest =>
    let b := BreakClass.of c
    if e.joins b then clustersFrom (e.push b) (cluster ++ [c]) rest
    else cluster :: clustersFrom (.start b) [c] rest

/-- The clusters of a text. -/
def clusters : List Char → List (List Char)
  | [] => []
  | c :: rest => clustersFrom (.start (.of c)) [c] rest

end OrgConsole.Text
