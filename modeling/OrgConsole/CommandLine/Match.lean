import OrgConsole.CommandLine.Grammar
/-!
# Matching words

`Grammar.parse` matches words with a grammar from left to right. The first word at fault decides;
what is missing shows at the end, in the innermost command first.
-/

namespace OrgConsole.CommandLine

/-- What was given: the commands named, and values by name, the innermost command first. -/
structure Given where
  path : List String
  values : List (String × List String)
deriving DecidableEq, Repr

namespace Given

/-- The value of a name, as the innermost command has it. -/
def value? (g : Given) (name : String) : Option String :=
  (g.values.lookup name).bind List.head?

/-- Every value of a name. -/
def all (g : Given) (name : String) : List String :=
  (g.values.filter (·.1 = name)).flatMap (·.2)

/-- Whether a name was given at all. -/
def has (g : Given) (name : String) : Bool :=
  g.values.any (·.1 = name)

end Given

/-- How a word reads. -/
inductive Word
  | escape
  | long (name : String) (value : Option String)
  | shorts (letters : List Char)
  | plain
deriving DecidableEq, Repr

/-- Two hyphens begin a long option, whose value may follow an equals sign, and one hyphen begins
short ones. -/
def Word.of (text : String) : Word :=
  match text.toList with
  | ['-', '-'] => .escape
  | '-' :: '-' :: rest =>
    let name := String.ofList (rest.takeWhile (· ≠ '='))
    match rest.dropWhile (· ≠ '=') with
    | [] => .long name none
    | _ :: value => .long name (some (String.ofList value))
  | '-' :: c :: rest => .shorts (c :: rest)
  | _ => .plain

/-- A command while its words are read. -/
structure Progress where
  values : List (String × List String)
  /-- What still takes values; an option that has none awaits one. -/
  pending : Option (String × List String)
  /-- How many positional arguments are full. -/
  filled : Nat
  /-- Whether all words are positional arguments by now. -/
  literal : Bool
deriving DecidableEq, Repr

namespace Progress

def start : Progress := ⟨[], none, 0, false⟩

/-- Whether the next word is the value of an option, if it does not look like one. -/
def awaits (p : Progress) : Bool :=
  p.pending.any fun (_, values) => values.isEmpty

/-- The name of a full value. An option is given once, and its value may have to have a character. -/
def record (g : Grammar) (p : Progress) (name : String) (values : List String) : Except UsageError Progress :=
  match g.long? name with
  | none => .ok { p with values := p.values ++ [(name, values)] }
  | some o =>
    if p.values.any (·.1 = name) then .error .repeatedOption
    else if o.role = .value true && values.contains "" then .error .noValue
    else .ok { p with values := p.values ++ [(name, values)] }

/-- Close what still takes values. -/
def settle (g : Grammar) (p : Progress) : Except UsageError Progress :=
  match p.pending with
  | none => .ok p
  | some (_, []) => .error .noValue
  | some (name, values) => { p with pending := none }.record g name values

/-! ## Options -/

/-- An option that takes a value, with the value that is attached to it. -/
def takeValue (g : Grammar) (p : Progress) (o : OptionSpec) (attached : Option String) :
    Except UsageError Progress := do
  let p ← p.settle g
  match attached with
  | some value => p.record g o.name [value]
  | none => .ok { p with pending := some (o.name, []) }

/-- An option without a value. -/
def takeSwitch (g : Grammar) (p : Progress) (o : OptionSpec) : Except UsageError Progress := do
  let p ← p.settle g
  match o.role with
  | .help => .error .help
  | .version => .error .version
  | _ => p.record g o.name []

def isValue : OptionRole → Bool
  | .value _ => true
  | _ => false

def takeLong (g : Grammar) (p : Progress) (name : String) (attached : Option String) : Except UsageError Progress :=
  match g.long? name with
  | none => .error .unknownArgument
  | some o =>
    if isValue o.role then p.takeValue g o attached
    else if attached.isSome then .error .unexpectedValue
    else p.takeSwitch g o

/-- Short options, of which the first that takes a value has the rest as its value. -/
def takeShorts (g : Grammar) (p : Progress) : List Char → Except UsageError Progress
  | [] => .ok p
  | c :: rest =>
    match g.short? c with
    | none => .error .unknownArgument
    | some o =>
      if isValue o.role then
        p.takeValue g o (match rest with
          | [] => none
          | '=' :: value => some (String.ofList value)
          | value => some (String.ofList value))
      else do takeShorts g (← p.takeSwitch g o) rest

/-! ## Values -/

/-- A positional argument. In a group there is none; a command's name after two hyphens is no
unknown command there. -/
def takePositional (g : Grammar) (p : Progress) (text : String) : Except UsageError Progress :=
  match g.positionals[p.filled]? with
  | none =>
    .error (if g.isGroup && !(p.literal && ((g.command? text).isSome || text = "help")) then .unknownCommand
      else .unknownArgument)
  | some a =>
    match p.pending with
    | some (name, values) =>
      if a.repeats && name = a.name then .ok { p with pending := some (name, values ++ [text]) }
      else do
        let p ← p.settle g
        .ok { p with pending := some (a.name, [text]), filled := if a.repeats then p.filled else p.filled + 1 }
    | none => .ok { p with pending := some (a.name, [text]), filled := if a.repeats then p.filled else p.filled + 1 }

/-- A word that names no command. -/
def take (g : Grammar) (p : Progress) (text : String) : Except UsageError Progress :=
  if p.literal then p.takePositional g text
  else match Word.of text with
    | .escape => .ok { p with literal := true }
    | .long name value => p.takeLong g name value
    | .shorts letters => p.takeShorts g letters
    | .plain =>
      match p.pending with
      | some (name, []) => .ok { p with pending := some (name, [text]) }
      | _ => p.takePositional g text

/-! ## The end of the words -/

/-- A command whose words are over. `preset` tells that options are given from elsewhere. -/
def finish (g : Grammar) (preset : Bool) (p : Progress) : Except UsageError Given := do
  let p ← p.settle g
  match g with
  | .leaf _ positionals =>
    if positionals.any fun a => a.required && !p.values.any (·.1 = a.name) then .error .missingArgument
    else .ok ⟨[], p.values⟩
  | .group _ _ needed =>
    if needed then .error (if p.values.isEmpty && !preset then .groupHelp else .missingCommand)
    else .ok ⟨[], p.values⟩

end Progress

/-- What words give to a grammar of which some are read. -/
def Grammar.parseFrom (preset : Bool) (g : Grammar) (p : Progress) : List String → Except UsageError Given
  | [] => p.finish g preset
  | text :: rest =>
    if p.literal || p.awaits then do parseFrom preset g (← p.take g text) rest
    else match g.command? text with
      | some sub => do
        let inner ← parseFrom preset sub .start rest
        let outer ← p.settle g
        .ok ⟨text :: inner.path, inner.values ++ outer.values⟩
      | none =>
        if g.isGroup && text = "help" then .error (g.helpOn rest)
        else do parseFrom preset g (← p.take g text) rest

/-- What words give to a grammar. -/
def Grammar.parse (g : Grammar) (preset : Bool) (words : List String) : Except UsageError Given :=
  g.parseFrom preset .start words

end OrgConsole.CommandLine
