/-!
# JSON values, as far as a text holds them

A text is read as far as it is JSON. Where it stops being JSON the value has a `fault`, so a reader
of records meets the faults of a text in the order in which the text has them. A value without a
fault is a JSON value in the plain sense.
-/

namespace OrgConsole

/-- A number as written: an integer of at most 64 bits, or `±coefficient · 10 ^ exponent`. -/
inductive Number
  | integer (value : Int)
  | decimal (negative : Bool) (coefficient : Nat) (exponent : Int)
deriving DecidableEq, Repr, Inhabited

namespace Number

/-- The least integer that a number keeps as one. -/
def least : Int := -0x8000000000000000

/-- The greatest integer that a number keeps as one. -/
def greatest : Int := 0xffffffffffffffff

/-- The value of `coefficient · 10 ^ exponent` as a double, by one multiplication or at most two
divisions; `none` when it is too large. -/
def magnitude? (coefficient : Nat) (exponent : Int) : Option Float :=
  let c := coefficient.toFloat
  let power (n : Nat) : Float := Float.ofScientific 1 false n
  if coefficient = 0 then some 0.0
  else if 308 < exponent then none
  else if 0 ≤ exponent then
    let x := c * power exponent.toNat
    if x.isInf then none else some x
  else if -308 ≤ exponent then some (c / power (-exponent).toNat)
  else if -616 ≤ exponent then some (c / power 308 / power (-exponent - 308).toNat)
  else some 0.0

/-- The number as a double. -/
def toFloat? : Number → Option Float
  | integer n => some (if n < 0 then -n.natAbs.toFloat else n.natAbs.toFloat)
  | decimal negative c e => (magnitude? c e).map fun x => if negative then -x else x

/-- Integers always have a value; a decimal has one unless it is too large for a double. -/
def isFinite (n : Number) : Bool :=
  n.toFloat?.isSome

end Number

/-- The ways in which a text fails to be JSON. -/
inductive Fault
  /-- No value can be read here, because the text ends or because of what it has. -/
  | value (ended : Bool)
  /-- The text ends where a number needs a digit. -/
  | digit
  /-- A list neither goes on nor closes here. -/
  | follow (ended : Bool)
  /-- A key is due and no string can be read. -/
  | key
  /-- A string with half a surrogate pair. -/
  | surrogate
deriving DecidableEq, Repr, Inhabited

/-- A JSON value. `fault f found` says that the text fails here, where it still has `found`. -/
inductive Json
  | null
  | bool (value : Bool)
  | number (value : Number)
  | string (value : String)
  | array (items : List Json)
  | object (members : List (String × Json))
  | fault (kind : Fault) (found : Json)
deriving Repr, Inhabited

namespace Json

mutual

/-- How many arrays and objects lie within each other. -/
def depth : Json → Nat
  | null | bool _ | number _ | string _ => 0
  | array items => 1 + depthItems items
  | object members => 1 + depthMembers members
  | fault _ found => found.depth

/-- The depth of the deepest item. -/
def depthItems : List Json → Nat
  | [] => 0
  | v :: rest => max v.depth (depthItems rest)

/-- The depth of the deepest member. -/
def depthMembers : List (String × Json) → Nat
  | [] => 0
  | (_, v) :: rest => max v.depth (depthMembers rest)

end

/-- The member of an object under a key, the first if there are several. -/
def member? (key : String) : Json → Option Json
  | object members => members.lookup key
  | _ => none

end Json

end OrgConsole
