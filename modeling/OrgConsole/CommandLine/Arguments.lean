import OrgConsole.Command
import OrgConsole.CommandLine.Match
/-!
# The console's arguments

The grammar of the console's command line, and what its words ask for.
-/

namespace OrgConsole

open CommandLine

/-- What the command line says. -/
structure Arguments where
  config : Option String
  url : Option String
  user : Option String
  password : Option String
  command : Option Command
deriving DecidableEq, Repr

namespace Arguments

/-! ## The grammar -/

def valued (name : String) : OptionSpec := ⟨name, none, .value false⟩

/-- The options of every command. -/
def common : List OptionSpec :=
  [⟨"config", some 'c', .value true⟩, valued "url", valued "user", valued "password", ⟨"help", some 'h', .help⟩]

def single (name : String) : Positional := ⟨name, true, false⟩

/-- A command with options of its own. -/
def leaf (own : List OptionSpec) (positionals : List Positional) : Grammar :=
  .leaf (own ++ common) positionals

def treeGrammar : Grammar :=
  leaf [⟨"search", some 's', .value false⟩, ⟨"json", none, .switch⟩] []

def membershipsGrammar : Grammar :=
  .group common [
    ("show", leaf [] [single "employee"]),
    ("add", leaf [valued "title", ⟨"primary", none, .switch⟩] [single "employee", single "department"]),
    ("remove", leaf [] [single "employee", single "department"]),
    ("primary", leaf [] [single "employee", single "department"]),
    ("title", leaf [] [single "employee", single "department", ⟨"title", false, false⟩])] true

def permissionsGrammar : Grammar :=
  .group common [
    ("show", leaf [valued "domain"] [single "role"]),
    ("grant", leaf [] [single "role", ⟨"ids", true, true⟩]),
    ("revoke", leaf [] [single "role", ⟨"ids", true, true⟩])] true

def grammar : Grammar :=
  .group (common ++ [⟨"version", some 'V', .version⟩]) [
    ("browse", leaf [] []),
    ("tree", treeGrammar),
    ("memberships", membershipsGrammar),
    ("permissions", permissionsGrammar)] false

/-! ## What words ask for -/

def membershipCommand? (name : String) (g : Given) : Option MembershipCommand := do
  let employee ← g.value? "employee"
  match name with
  | "show" => return .list employee
  | "add" => return .add employee (← g.value? "department") (g.value? "title") (g.has "primary")
  | "remove" => return .remove employee (← g.value? "department")
  | "primary" => return .primary employee (← g.value? "department")
  | "title" => return .title employee (← g.value? "department") (g.value? "title")
  | _ => none

def permissionCommand? (name : String) (g : Given) : Option PermissionCommand := do
  let role ← g.value? "role"
  match name with
  | "show" => return .list role (g.value? "domain")
  | "grant" => return .grant role (g.all "ids")
  | "revoke" => return .revoke role (g.all "ids")
  | _ => none

def command? (g : Given) : Option Command :=
  match g.path with
  | ["browse"] => some .browse
  | ["tree"] => some (.tree (g.value? "search") (g.has "json"))
  | ["memberships", name] => (membershipCommand? name g).map .memberships
  | ["permissions", name] => (permissionCommand? name g).map .permissions
  | _ => none

/-- The names that options go by in the environment. -/
def variableNames : List (String × String) :=
  [("url", "ORGDESK_URL"), ("user", "ORGDESK_USER"), ("password", "ORGDESK_PASSWORD")]

/-- The value of an option: from the words, else from the environment. -/
def option? (g : Given) (env : List (String × String)) (name : String) : Option String :=
  g.value? name <|> (variableNames.lookup name).bind fun v => List.lookup v env

/-- What the words after the program's name say, in an environment. -/
def parse (env : List (String × String)) (words : List String) : Except UsageError Arguments := do
  let g ← grammar.parse (variableNames.any fun v => (List.lookup v.2 env).isSome) words
  return {
    config := g.value? "config"
    url := option? g env "url"
    user := option? g env "user"
    password := option? g env "password"
    command := command? g }

end Arguments

end OrgConsole
