import OrgConsole.Decimal
/-!
# TOML values

A table knows how it was made, because that decides what may still be added to it: a table that
only came up on the way to another one can still be opened by a header, one that was made by dotted
keys can take more dotted keys, and one that is written in braces is closed.
-/

namespace OrgConsole

/-- How a table was made. -/
inductive TableOrigin
  /-- By a header of its own. -/
  | header
  /-- On the way of a header to another table. -/
  | passed
  /-- On the way of a dotted key. -/
  | dotted
  /-- In braces. -/
  | closed
deriving DecidableEq, Repr

inductive Toml
  | string (value : String)
  | integer (value : Int)
  | float (value : Float)
  | boolean (value : Bool)
  /-- A date, a time or both, in its plain form. -/
  | moment (text : String)
  | array (items : List Toml)
  | table (origin : TableOrigin) (entries : List (String × Toml))
  /-- Tables under repeated headers. -/
  | rows (tables : List (List (String × Toml)))

namespace Toml

/-- The names of a table with what stands under them. -/
abbrev Entries := List (String × Toml)

/-- The text of a value that is not made of values. -/
def text? : Toml → Option String
  | string s => some s
  | integer n => some (toString n)
  | float x => some (Decimal.plainText x)
  | boolean b => some (toString b)
  | moment s => some s
  | array _ | table _ _ | rows _ => none

end Toml

end OrgConsole
