import OrgConsole.Wire.Refusal
/-!
# Reading values of a given shape

A reader takes the levels of nesting that are left and a JSON value. Parts that no reader asks for
are skipped: they may nest as deep as they like and hold any number, but they must be JSON.

A record is read from an object by the names of its fields or from an array by their order. Fields
are read in the order of the text and the first fault ends the reading; what is missing is said last.
-/

namespace OrgConsole.Wire

/-- The result of reading. -/
abbrev Reading := Except Refusal

/-- How deep arrays and objects may nest. -/
def nestingLimit : Nat := 127

/-! ## Faults -/

/-- A fault, and what stands in its place, as they meet a reader that wants the value. -/
def refusal : Fault → Json → Refusal
  | .value true, _ | .follow true, _ | .digit, _ => .truncated
  | .key, .fault (.value true) _ => .truncated
  | .value false, _ | .follow false, _ | .key, _ | .surrogate, _ => .malformed

mutual

/-- Pass over a value that nobody wants. -/
def skip : Json → Reading Unit
  | .fault .surrogate found => skip found
  | .fault .digit _ => .error .malformed
  | .fault f found => .error (refusal f found)
  | .array items => skipItems items
  | .object members => skipMembers members
  | _ => .ok ()

/-- Pass over items. -/
def skipItems : List Json → Reading Unit
  | [] => .ok ()
  | v :: rest => do skip v; skipItems rest

/-- Pass over members. -/
def skipMembers : List (String × Json) → Reading Unit
  | [] => .ok ()
  | (_, v) :: rest => do skip v; skipMembers rest

end

/-- One level of nesting less, if there is one. -/
def enter : (room : Nat) → Reading Nat
  | 0 => .error .malformed
  | room + 1 => .ok room

mutual

/-- A value of any shape, within the limits that hold for values that are wanted. -/
def anything (room : Nat) : Json → Reading Unit
  | .fault f found => .error (refusal f found)
  | .number n => if n.isFinite then .ok () else .error .malformed
  | .array items => do everyItem (← enter room) items
  | .object members => do everyMember (← enter room) members
  | _ => .ok ()

/-- Items of any shape. -/
def everyItem (room : Nat) : List Json → Reading Unit
  | [] => .ok ()
  | v :: rest => do anything room v; everyItem room rest

/-- Members of any shape. -/
def everyMember (room : Nat) : List (String × Json) → Reading Unit
  | [] => .ok ()
  | (_, v) :: rest => do anything room v; everyMember room rest

end

/-- The refusal of a value that is not what is expected. -/
def unexpected (expected : String) : Json → Refusal
  | .null => .misfit (.wrongType .null expected)
  | .bool b => .misfit (.wrongType (.bool b) expected)
  | .number n => if n.isFinite then .misfit (.wrongType (.number n) expected) else .malformed
  | .string s => .misfit (.wrongType (.string s) expected)
  | .array _ => .misfit (.wrongType .sequence expected)
  | .object _ => .misfit (.wrongType .map expected)
  | .fault f found => refusal f found

/-! ## Plain values -/

def string : Json → Reading String
  | .string s => .ok s
  | v => .error (unexpected "a string" v)

def bool : Json → Reading Bool
  | .bool b => .ok b
  | v => .error (unexpected "a boolean" v)

/-- An integer between two bounds. -/
def integer (name : String) (low high : Int) : Json → Reading Int
  | .number (.integer n) =>
    if low ≤ n && n ≤ high then .ok n else .error (.misfit (.outOfRange n name))
  | v => .error (unexpected name v)

/-- `null` stands for an absent value. -/
def optional {α : Type} (read : Json → Reading α) : Json → Reading (Option α)
  | .null => .ok none
  | v => some <$> read v

/-- An integer of sixty-four bits with a sign. -/
def signed (v : Json) : Reading Int64 := do
  return Int64.ofInt (← integer "i64" (-0x8000000000000000) 0x7fffffffffffffff v)

/-- An integer of sixty-four bits without a sign. -/
def unsigned (v : Json) : Reading UInt64 := do
  return UInt64.ofNat (← integer "u64" 0 0xffffffffffffffff v).toNat

/-- An identifier as a backend writes it. -/
inductive RawId
  | text (value : String)
  | signed (value : Int64)
  | unsigned (value : UInt64)
deriving DecidableEq, Repr

/-- The identifier itself: the text, or the digits of the integer. -/
def RawId.name : RawId → String
  | text s => s
  | signed n => toString n.toInt
  | unsigned n => toString n.toNat

/-- The first form that reads the value, in this order. -/
def rawId (v : Json) : Reading RawId :=
  RawId.text <$> string v <|> RawId.signed <$> signed v <|> RawId.unsigned <$> unsigned v <|>
    .error (.misfit .noIdentifier)

/-- An identifier in any of its forms. The value is read as a whole before the forms are tried. -/
def identifier (room : Nat) (v : Json) : Reading String := do
  anything room v
  return (← rawId v).name

/-- The value that a name stands for. -/
def named {α : Type} (names : List (String × α)) (s : String) : Reading α :=
  match names.lookup s with
  | some a => .ok a
  | none => .error (.misfit (.unknownVariant s (names.map (·.1))))

/-- The members that may follow the only one: none. -/
def noMore : List (String × Json) → Reading Unit
  | [] => .ok ()
  | (_, .fault (.follow ended) found) :: _ => .error (refusal (.follow ended) found)
  | _ => .error .malformed

/-- One of several names; it may also stand as the only key of an object, with `null`. -/
def variant {α : Type} (names : List (String × α)) (room : Nat) : Json → Reading α
  | .string s => named names s
  | .object members => do
    let _ ← enter room
    match members with
    | [] => .error .malformed
    | (_, .fault .key found) :: _ => .error (unexpected "variant identifier" found)
    | (key, v) :: rest => do
      let a ← named names key
      match v with
      | .null => do
        noMore rest
        return a
      | v => .error (unexpected "unit" v)
  | .fault f found => .error (refusal f found)
  | _ => .error .malformed

/-- The items of an array, each by the same reader. -/
def items {α : Type} (read : Json → Reading α) : List Json → Reading (List α)
  | [] => .ok []
  | v :: rest => do
    let a ← read v
    return a :: (← items read rest)

/-- An array, its items one level further in. -/
def list {α : Type} (read : Nat → Json → Reading α) (room : Nat) : Json → Reading (List α)
  | .array vs => do items (read (← enter room)) vs
  | v => .error (unexpected "a sequence" v)

end OrgConsole.Wire
