import OrgConsole.Startup
/-!
# The program

It reads what surrounds it, runs the console and prints what comes of it. There is no network behind
it: every request is refused.
-/

open OrgConsole

/-- The names of variables that the console looks at. -/
def watchedVariables : List String :=
  ["HOME", "TMPDIR", "ORGDESK_URL", "ORGDESK_USER", "ORGDESK_USERNAME", "ORGDESK_PASSWORD"]

/-- A file's text, if the file can be read. -/
def readText? (path : String) : IO (Option String) := do
  try return some (← IO.FS.readFile path)
  catch _ => return none

/-- Make an empty file, if that can be done. -/
def touch (path : String) : IO Bool := do
  try
    IO.FS.writeFile path ""
    return true
  catch _ => return false

/-- An error with its causes, the outermost first. -/
def errorText (messages : List String) : String :=
  let causes := messages.drop 1
  let lines := ((List.range causes.length).zip causes).map fun (i, cause) => "    " ++ toString i ++ ": " ++ cause ++ "\n"
  "Error: " ++ messages.headD "" ++ "\n" ++ if causes.isEmpty then "" else "\nCaused by:\n" ++ String.join lines

/-- A backend that refuses every request. -/
def refuse : Transport Unit := fun _ s => (none, s)

def main (words : List String) : IO UInt32 := do
  let environment ← watchedVariables.filterMapM fun name => do
    return (← IO.getEnv name).map fun value => (name, value)
  let arguments := (Arguments.parse environment words).toOption
  let path := (arguments.bind (·.config)).getD (Settings.expandHome (environment.lookup "HOME") Settings.defaultPath)
  let files ← (Settings.candidates path).filterMapM fun path => do
    return (← readText? path).map fun text => (path, text)
  let logPath := Startup.logPath environment
  let browses := arguments.any fun a => a.command.getD .browse = .browse
  let created ← if browses then touch logPath else pure false
  let run := Startup.run refuse () ⟨environment, fun path => List.lookup path files, fun _ => created⟩ words
  IO.print run.ending.printed
  match run.ending with
  | .failed why => IO.eprint (errorText why.messages)
  | _ => pure ()
  return run.ending.exitCode.toUInt32
