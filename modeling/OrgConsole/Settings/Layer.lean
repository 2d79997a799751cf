import OrgConsole.Settings
import OrgConsole.Toml.Reader
/-!
# Layers of settings

The settings file is one layer and the environment another, which goes before it. Names are the same
in capitals and small letters. A name may lead into a table or a list; a setting that is one of these
has no text.
-/

namespace OrgConsole

/-- Why there are no settings. -/
inductive SettingsFailure
  /-- The file is malformed. -/
  | malformed (path : String)
  /-- A setting has no text. -/
  | noText
deriving DecidableEq, Repr

def SettingsFailure.message : SettingsFailure → String
  | malformed path => "reading config file " ++ path
  | noText => "parsing settings"

namespace Settings

/-- Names with their texts, if they have one. -/
abbrev Layer := List (String × Option String)

/-! ## Names -/

/-- A character of a part of a name. -/
def inPart (c : Char) : Bool :=
  c.isAlphanum || c = ' ' || c = '_' || c = '-'

/-- Whether a text is a sequence of parts, each after a point, and of numbers in brackets. -/
def isWayIn : (fuel : Nat) → List Char → Bool
  | 0, _ => false
  | _ + 1, [] => true
  | fuel + 1, '.' :: rest =>
    let (part, rest) := rest.span inPart
    !part.isEmpty && isWayIn fuel rest
  | fuel + 1, '[' :: rest =>
    let inside := (rest.takeWhile (· ≠ ']')).dropWhile (· = ' ')
    let digits := if inside.head? = some '-' then inside.drop 1 else inside
    let after := rest.dropWhile (· ≠ ']')
    !digits.isEmpty && digits.all Char.isDigit && !after.isEmpty && isWayIn fuel (after.drop 1)
  | _, _ => false

/-- The entry of a layer for a name and a text. If the name leads into a setting, that has no text. -/
def entry (name : String) (text : Option String) : String × Option String :=
  let (part, way) := name.toList.span inPart
  if !part.isEmpty && !way.isEmpty && isWayIn (way.length + 1) way then ((String.ofList part).toLower, none)
  else (name.toLower, text)

/-! ## Layers -/

def ofFile (entries : Toml.Entries) : Layer :=
  entries.map fun (name, value) => entry name value.text?

/-- What the names of the console's variables begin with. -/
def variablePrefix : List Char := "orgdesk_".toList

def ofEnvironment (env : List (String × String)) : Layer :=
  env.filterMap fun (name, value) =>
    let name := name.toLower.toList
    if variablePrefix.isPrefixOf name then some (entry (String.ofList (name.drop variablePrefix.length)) (some value))
    else none

/-- The text of a name in the layers, of which the first goes before the others. -/
def text? (layers : List Layer) (name : String) : Except SettingsFailure (Option String) :=
  match layers.findSome? (List.lookup name) with
  | some (some text) => .ok (some text)
  | some none => .error .noText
  | none => .ok none

/-- The settings that layers make. -/
def ofLayers (layers : List Layer) : Except SettingsFailure Settings := do
  return {
    url := ← text? layers "url"
    user := ← text? layers "user"
    username := ← text? layers "username"
    password := ← text? layers "password" }

/-- The settings of a file's text, if there is a file, and of an environment. -/
def read (path : String) (file : Option String) (env : List (String × String)) : Except SettingsFailure Settings :=
  match file with
  | none => ofLayers [ofEnvironment env]
  | some text =>
    match Toml.read? text with
    | none => .error (.malformed path)
    | some entries => ofLayers [ofEnvironment env, ofFile entries]

/-! ## Where the file is -/

/-- Where the file is, if nothing is said. -/
def defaultPath : String := "~/.config/orgdesk/config.toml"

/-- A path below a directory; a path from the root stays what it is. -/
def joinPath (directory path : String) : String :=
  if path.startsWith "/" || directory.isEmpty then path
  else if directory.endsWith "/" then directory ++ path
  else directory ++ "/" ++ path

/-- A path with a leading tilde and slash as one below the home directory. -/
def expandHome (home : Option String) (path : String) : String :=
  match path.toList, home with
  | '~' :: '/' :: rest, some home => joinPath home (String.ofList rest)
  | _, _ => path

/-- Where a settings file is looked for: at its path, else there with the ending of its format. -/
def candidates (path : String) : List String :=
  [path, path ++ ".toml"]

/-- The settings for a path, by default the one below the home directory. -/
def load (file? : String → Option String) (env : List (String × String)) (path : Option String) :
    Except SettingsFailure Settings :=
  let path := path.getD (expandHome (env.lookup "HOME") defaultPath)
  read path ((candidates path).findSome? file?) env

end Settings

end OrgConsole
