import OrgConsole.Toml.Document
import OrgConsole.Toml.Scalar
/-!
# Reading TOML

`Toml.read?` reads a document line by line. Every reader gives what it has read and the rest of the
text, or nothing if the text does not go on as it must.
-/

namespace OrgConsole.Toml

/-! ## Between values -/

def skipBlank (cs : List Char) : List Char :=
  cs.dropWhile fun c => c = ' ' || c = '\t'

/-- Skip blanks, line breaks and comments. -/
def skipFill? (comment : Bool) : List Char → Option (List Char)
  | [] => some []
  | '\n' :: rest => skipFill? false rest
  | '\r' :: '\n' :: rest => skipFill? false rest
  | c :: rest =>
    if comment then (if isPlain c then skipFill? true rest else none)
    else if c = '#' then skipFill? true rest
    else if c = ' ' || c = '\t' then skipFill? false rest
    else some (c :: rest)

/-- Skip the rest of a line, which may only have a comment. -/
def endLine? (cs : List Char) : Option (List Char) :=
  let rest := match skipBlank cs with
    | '#' :: rest => rest.dropWhile isPlain
    | rest => rest
  match rest with
  | [] => some []
  | '\n' :: rest => some rest
  | '\r' :: '\n' :: rest => some rest
  | _ => none

/-! ## Keys -/

/-- A character of a key without quotes. -/
def inBareKey (c : Char) : Bool :=
  c.isAlphanum || c = '_' || c = '-'

/-- One part of a key. A key in quotes stays on its line. -/
def keyPart? (cs : List Char) : Option (String × List Char) :=
  match cs with
  | '"' :: rest => (stringBody? ⟨'"', true, false⟩ (cs.length + 1) rest).map fun (s, r) => (String.ofList s, r)
  | '\'' :: rest => (stringBody? ⟨'\'', false, false⟩ (cs.length + 1) rest).map fun (s, r) => (String.ofList s, r)
  | _ =>
    let (key, rest) := cs.span inBareKey
    if key.isEmpty then none else some (String.ofList key, rest)

/-- The most parts of a key, and the most values within each other. -/
def depthLimit : Nat := 80

/-- A key: the parts before the last point, and the last. -/
def key? : (fuel : Nat) → List Char → Option ((List String × String) × List Char)
  | 0, _ => none
  | fuel + 1, cs => do
    let (part, rest) ← keyPart? (skipBlank cs)
    match skipBlank rest with
    | '.' :: rest =>
      let ((path, last), rest) ← key? fuel rest
      return ((part :: path, last), rest)
    | rest => return (([], part), rest)

/-! ## Values -/

mutual

/-- A value; `room` tells how many more arrays and tables may lie within each other. -/
def value? : (fuel room : Nat) → List Char → Option (Toml × List Char)
  | 0, _, _ => none
  | fuel + 1, room, cs =>
    match cs with
    | '"' :: _ => (string? '"' cs).map fun (s, rest) => (.string s, rest)
    | '\'' :: _ => (string? '\'' cs).map fun (s, rest) => (.string s, rest)
    | '[' :: rest => do
      if room ≤ 1 then none
      let (items, rest) ← items? fuel (room - 1) (← skipFill? false rest)
      return (.array items, rest)
    | '\x7b' :: rest => do
      if room ≤ 1 then none
      let (pairs, rest) ← match skipBlank rest with
        | '\x7d' :: rest => some ([], rest)
        | rest => pairs? fuel (room - 1) rest
      return (.table .closed (← ofPairs? pairs), rest)
    | cs => do
      let (word, rest) := splitWord cs
      return (← word? word, rest)

/-- The items of an array and its closing bracket; a comma may stand after the last. -/
def items? : (fuel room : Nat) → List Char → Option (List Toml × List Char)
  | 0, _, _ => none
  | fuel + 1, room, cs =>
    match cs with
    | ']' :: rest => some ([], rest)
    | cs => do
      let (v, rest) ← value? fuel room cs
      match ← skipFill? false rest with
      | ',' :: rest =>
        let (vs, rest) ← items? fuel room (← skipFill? false rest)
        return (v :: vs, rest)
      | ']' :: rest => return ([v], rest)
      | _ => none

/-- The entries of a table in braces, at least one, and its closing brace. -/
def pairs? : (fuel room : Nat) → List Char → Option (List (List String × String × Toml) × List Char)
  | 0, _, _ => none
  | fuel + 1, room, cs => do
    let ((path, key), rest) ← key? depthLimit cs
    match rest with
    | '=' :: rest =>
      let (v, rest) ← value? fuel room (skipBlank rest)
      match skipBlank rest with
      | ',' :: rest =>
        let (ps, rest) ← pairs? fuel room rest
        return ((path, key, v) :: ps, rest)
      | '\x7d' :: rest => return ([(path, key, v)], rest)
      | _ => none
    | _ => none

end

/-! ## Lines -/

/-- A statement at the front of a text. -/
def statement? (cs : List Char) : Option (Statement × List Char) :=
  match cs with
  | '[' :: '[' :: rest => do
    let ((path, key), rest) ← key? depthLimit rest
    match rest with
    | ']' :: ']' :: rest => return (.row path key, rest)
    | _ => none
  | '[' :: rest => do
    let ((path, key), rest) ← key? depthLimit rest
    match rest with
    | ']' :: rest => return (.header path key, rest)
    | _ => none
  | cs => do
    let ((path, key), rest) ← key? depthLimit cs
    match rest with
    | '=' :: rest =>
      let (v, rest) ← value? (cs.length + 1) depthLimit (skipBlank rest)
      return (.assign path key v, rest)
    | _ => none

/-- The statements of a text, each on a line of its own. -/
def statements? : (fuel : Nat) → List Char → Option (List Statement)
  | 0, _ => none
  | fuel + 1, cs => do
    match ← skipFill? false cs with
    | [] => return []
    | cs =>
      let (s, rest) ← statement? cs
      return s :: (← statements? fuel (← endLine? rest))

/-- The entries of a document. -/
def read? (text : String) : Option Entries := do
  let cs := match text.toList with
    | '\ufeff' :: rest => rest
    | cs => cs
  ofStatements? (← statements? (cs.length + 1) cs)

end OrgConsole.Toml
