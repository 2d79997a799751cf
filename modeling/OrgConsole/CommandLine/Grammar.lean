/-!
# Command line grammars

A command either has positional arguments or groups further commands. Options may stand anywhere
between the other words of their command, up to a word of two hyphens, after which every word is a
positional argument.
-/

namespace OrgConsole.CommandLine

/-- What an option does. -/
inductive OptionRole
  /-- It is there or not. -/
  | switch
  /-- It takes a value; some values must have a character. -/
  | value (nonempty : Bool)
  | help
  | version
deriving DecidableEq, Repr

structure OptionSpec where
  name : String
  short : Option Char
  role : OptionRole
deriving DecidableEq, Repr

structure Positional where
  name : String
  required : Bool
  /-- Whether it takes all words that are left. -/
  repeats : Bool
deriving DecidableEq, Repr

/-- A grammar of words. -/
inductive Grammar
  | leaf (options : List OptionSpec) (positionals : List Positional)
  /-- Further commands, one of which may have to be named. -/
  | group (options : List OptionSpec) (commands : List (String × Grammar)) (needed : Bool)

/-- Why words do not fit a grammar, or need no further work. -/
inductive UsageError
  | unknownArgument
  | noValue
  | missingArgument
  | unknownCommand
  | missingCommand
  | repeatedOption
  | unexpectedValue
  | help
  /-- Help for a group of which no command is named. -/
  | groupHelp
  | version
deriving DecidableEq, Repr

namespace Grammar

def options : Grammar → List OptionSpec
  | leaf options _ => options
  | group options _ _ => options

def positionals : Grammar → List Positional
  | leaf _ positionals => positionals
  | group _ _ _ => []

def command? (name : String) : Grammar → Option Grammar
  | leaf _ _ => none
  | group _ commands _ => commands.lookup name

def isGroup : Grammar → Bool
  | leaf _ _ => false
  | group _ _ _ => true

def long? (g : Grammar) (name : String) : Option OptionSpec :=
  g.options.find? (·.name = name)

def short? (g : Grammar) (c : Char) : Option OptionSpec :=
  g.options.find? (·.short = some c)

/-- The end of a request for help on a command. Every group also helps, and help is a command
without commands. -/
def helpOn (g : Grammar) : List String → UsageError
  | [] => .help
  | name :: rest =>
    match g.command? name with
    | some sub => sub.helpOn rest
    | none => if g.isGroup && name = "help" && rest.isEmpty then .help else .unknownCommand

end Grammar

end OrgConsole.CommandLine
