import OrgConsole.Json.Reader
import OrgConsole.Wire.Shape
/-!
# Reading records

A record has named fields in a fixed order. It is read from an object by the names, or from an array
by the order; trailing fields that have a default may be absent there.
-/

namespace OrgConsole.Wire

/-- A field of a record `ρ`: its name, whether it must be given, and how a value enters the record. -/
structure Field (ρ : Type) where
  name : String
  required : Bool
  put : (room : Nat) → Json → ρ → Reading ρ

/-- A field read by `read` and stored by `set`. -/
def Field.of {ρ α : Type} (name : String) (required : Bool) (read : Nat → Json → Reading α)
    (set : α → ρ → ρ) : Field ρ :=
  ⟨name, required, fun room v r => (set · r) <$> read room v⟩

/-- The fields of a record, its name in messages, and a record with every default. -/
structure Layout (ρ : Type) where
  title : String
  blank : ρ
  fields : List (Field ρ)

namespace Layout

variable {ρ : Type}

/-- The record's name in messages about its length. -/
def titleWithSize (l : Layout ρ) : String :=
  "struct " ++ l.title ++ " with " ++ toString l.fields.length ++ " elements"

/-- Read the members of an object in the order of the text; `seen` are the fields already given. -/
def readMembers (l : Layout ρ) (room : Nat) (seen : List String) (r : ρ) :
    List (String × Json) → Reading (ρ × List String)
  | [] => .ok (r, seen)
  | (_, .fault .key found) :: _ => .error (refusal .key found)
  | (key, v) :: rest =>
    match l.fields.find? (·.name = key) with
    | none => do
      skip v
      l.readMembers room seen r rest
    | some f =>
      if key ∈ seen then .error (.misfit (.duplicateField key))
      else do
        let r ← f.put room v r
        l.readMembers room (key :: seen) r rest

/-- Every required field has been given. -/
def complete (l : Layout ρ) (seen : List String) : Reading Unit :=
  match l.fields.find? fun f => f.required && !seen.contains f.name with
  | some f => .error (.misfit (.missingField f.name))
  | none => .ok ()

/-- Read the items of an array by the order of the fields; `taken` items went before. -/
def readItems (l : Layout ρ) (room taken : Nat) (r : ρ) : List (Field ρ) → List Json → Reading ρ
  | [], [] => .ok r
  | [], .fault (.follow ended) found :: _ => .error (refusal (.follow ended) found)
  | [], _ :: _ => .error .malformed
  | f :: fields, [] =>
    if f.required then .error (.misfit (.wrongLength taken l.titleWithSize))
    else l.readItems room (taken + 1) r fields []
  | f :: fields, v :: rest => do
    let r ← f.put room v r
    l.readItems room (taken + 1) r fields rest

/-- Read a record. -/
def read (l : Layout ρ) (room : Nat) : Json → Reading ρ
  | .object members => do
    let room ← enter room
    let (r, seen) ← l.readMembers room [] l.blank members
    l.complete seen
    return r
  | .array items => do
    let room ← enter room
    l.readItems room 0 l.blank l.fields items
  | v => .error (unexpected ("struct " ++ l.title) v)

end Layout

/-- Read a text as a value of some shape, with nothing after it. -/
def readText {α : Type} (read : Nat → Json → Reading α) (text : String) : Reading α := do
  let (v, alone) := Json.read text
  let a ← read nestingLimit v
  if alone then return a else .error .malformed

end OrgConsole.Wire
