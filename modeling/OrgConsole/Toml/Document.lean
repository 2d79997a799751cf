import OrgConsole.Toml.Value
/-!
# TOML documents

A document is a list of statements, each of which adds to the tables that there are. A name stands
for one thing only, so a statement that would say it twice makes the whole document void.
-/

namespace OrgConsole.Toml

/-- What a line of a document says. -/
inductive Statement
  /-- A value under a key, which may be dotted. -/
  | assign (path : List String) (key : String) (value : Toml)
  /-- The following values belong to a table. -/
  | header (path : List String) (key : String)
  /-- The following values belong to one more table of a list. -/
  | row (path : List String) (key : String)

/-- The entries with another value under a key that they have. -/
def setEntry (key : String) (value : Toml) : Entries → Entries
  | [] => []
  | (k, v) :: rest => if k = key then (k, value) :: rest else (k, v) :: setEntry key value rest

/-- Change the table at the end of a path. Tables that are missing on the way are made; of a list of
tables the way goes through the last. A dotted key does not lead into a table with a header. -/
def updateAt (dotted : Bool) (f : TableOrigin → Entries → Option (TableOrigin × Entries)) :
    List String → TableOrigin → Entries → Option (TableOrigin × Entries)
  | [], origin, entries => f origin entries
  | key :: path, origin, entries =>
    match entries.lookup key with
    | none => do
      let (o, es) ← updateAt dotted f path (if dotted then .dotted else .passed) []
      return (origin, entries ++ [(key, .table o es)])
    | some (.table o es) => do
      if o = .closed || (dotted && o = .header) then none
      let (o, es) ← updateAt dotted f path o es
      return (origin, setEntry key (.table o es) entries)
    | some (.rows tables) => do
      let (_, es) ← updateAt dotted f path .header (← tables.getLast?)
      return (origin, setEntry key (.rows (tables.dropLast ++ [es])) entries)
    | some _ => none

/-- Put a value under a new key of a table. A table that dotted keys lead to takes values from them
only, every other table only without them. -/
def assignIn (dotted : Bool) (key : String) (value : Toml) (origin : TableOrigin) (entries : Entries) :
    Option (TableOrigin × Entries) :=
  if (origin = .dotted) ≠ dotted then none
  else if (entries.lookup key).isSome then none
  else some (origin, entries ++ [(key, value)])

/-- A value under a dotted key. -/
def assignAt (path : List String) (key : String) (value : Toml) (origin : TableOrigin) (entries : Entries) :
    Option (TableOrigin × Entries) :=
  updateAt true (assignIn (!path.isEmpty) key value) path origin entries

/-- Open a table by its header. -/
def openTable (key : String) (origin : TableOrigin) (entries : Entries) : Option (TableOrigin × Entries) :=
  match entries.lookup key with
  | none => some (origin, entries ++ [(key, .table .header [])])
  | some (.table .passed es) => some (origin, setEntry key (.table .header es) entries)
  | some _ => none

/-- Begin one more table of a list. -/
def openRow (key : String) (origin : TableOrigin) (entries : Entries) : Option (TableOrigin × Entries) :=
  match entries.lookup key with
  | none => some (origin, entries ++ [(key, .rows [[]])])
  | some (.rows tables) => some (origin, setEntry key (.rows (tables ++ [[]])) entries)
  | some _ => none

/-- A document while its statements are added: the table that values belong to, and all entries. -/
structure Draft where
  current : List String
  entries : Entries

def Draft.add (d : Draft) : Statement → Option Draft
  | .assign path key value => do
    let (_, es) ← updateAt false (assignAt path key value) d.current .header d.entries
    return { d with entries := es }
  | .header path key => do
    let (_, es) ← updateAt false (openTable key) path .header d.entries
    return ⟨path ++ [key], es⟩
  | .row path key => do
    let (_, es) ← updateAt false (openRow key) path .header d.entries
    return ⟨path ++ [key], es⟩

/-- The entries of a document. -/
def ofStatements? (statements : List Statement) : Option Entries :=
  (statements.foldlM Draft.add (⟨[], []⟩ : Draft)).map Draft.entries

/-- One more entry of a table in braces. -/
def addPair (table : TableOrigin × Entries) (pair : List String × String × Toml) : Option (TableOrigin × Entries) :=
  assignAt pair.1 pair.2.1 pair.2.2 table.1 table.2

/-- The entries of a table in braces. -/
def ofPairs? (pairs : List (List String × String × Toml)) : Option Entries :=
  (pairs.foldlM addPair (TableOrigin.closed, [])).map Prod.snd

end OrgConsole.Toml
