import OrgConsole.Decimal
import OrgConsole.Json.Value
import OrgConsole.Text.Quoted
/-!
# Why a text is no record

A text is refused because it ends too early, because it is malformed, or because it is JSON of the
wrong shape. Only the last kind says more.
-/

namespace OrgConsole.Wire

/-- What stands where something else was expected. -/
inductive Found
  | null
  | bool (value : Bool)
  | number (value : Number)
  | string (value : String)
  | sequence
  | map
deriving DecidableEq, Repr

/-- How a JSON value has the wrong shape. -/
inductive Misfit
  | wrongType (found : Found) (expected : String)
  | outOfRange (found : Int) (expected : String)
  | wrongLength (length : Nat) (expected : String)
  | unknownVariant (name : String) (known : List String)
  | noIdentifier
  | missingField (name : String)
  | duplicateField (name : String)
deriving DecidableEq, Repr

/-- Why a text is no record. -/
inductive Refusal
  | truncated
  | malformed
  | misfit (why : Misfit)
deriving DecidableEq, Repr

/-- A number as a message names it. -/
def numberText : Number → String
  | .integer n => "integer `" ++ toString n ++ "`"
  | n => "floating point `" ++ (n.toFloat?.elim "" Decimal.text) ++ "`"

/-- What was found, as a message names it. -/
def Found.text : Found → String
  | null => "null"
  | bool b => "boolean `" ++ toString b ++ "`"
  | number n => numberText n
  | string s => "string " ++ Text.quoted s
  | sequence => "sequence"
  | map => "map"

/-- Names in back quotes, with `or` before the last. -/
def alternatives (names : List String) : String :=
  " or ".intercalate (names.map fun n => "`" ++ n ++ "`")

/-- The text of a misfit. -/
def Misfit.message : Misfit → String
  | wrongType found expected => "invalid type: " ++ found.text ++ ", expected " ++ expected
  | outOfRange n expected => "invalid value: integer `" ++ toString n ++ "`, expected " ++ expected
  | wrongLength n expected => "invalid length " ++ toString n ++ ", expected " ++ expected
  | unknownVariant name known => "unknown variant `" ++ name ++ "`, expected " ++ alternatives known
  | noIdentifier => "data did not match any variant of untagged enum RawId"
  | missingField name => "missing field `" ++ name ++ "`"
  | duplicateField name => "duplicate field `" ++ name ++ "`"

end OrgConsole.Wire
