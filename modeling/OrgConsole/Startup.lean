import OrgConsole.Command.Run
import OrgConsole.CommandLine.Arguments
import OrgConsole.Settings.Layer
/-!
# From start to end

What the console does from its arguments to its exit code: it reads the arguments, opens the log if
it is going to browse, reads the settings, and then runs the command. The first step that fails ends
it.
-/

namespace OrgConsole

/-- What surrounds the console. -/
structure Surroundings where
  environment : List (String × String)
  /-- The text of a file, if there is one. -/
  file? : String → Option String
  /-- Whether a file can be made. -/
  canCreate : String → Bool

/-- Why the console ends with an error. -/
inductive StartupFailure
  | log (path : String)
  | settings (why : SettingsFailure)
  | client (why : ClientFailure)
  | command (why : CommandFailure ClientFailure)
  /-- There is no terminal to browse on. -/
  | terminal
deriving DecidableEq, Repr

/-- The texts of a failure, the outermost first. -/
def StartupFailure.messages : StartupFailure → List String
  | log path => ["creating log file " ++ path]
  | settings why => [why.message]
  | client why => [why.message]
  | command why => why.messages ClientFailure.message
  | terminal => ["enabling raw mode"]

/-- How the console ends. -/
inductive Ending
  | done (text : String)
  | usage (why : CommandLine.UsageError)
  | failed (why : StartupFailure)
deriving DecidableEq, Repr

namespace Ending

def versionText : String := "orgdesk 0.1.0\n"

/-- An error of use exits with two, any other with one; to be asked for help or for the version is no
error. -/
def exitCode : Ending → Nat
  | done _ => 0
  | usage .help | usage .version => 0
  | usage _ => 2
  | failed _ => 1

/-- What is printed, but for help. -/
def printed : Ending → String
  | done text => text
  | usage .version => versionText
  | _ => ""

end Ending

/-- A whole run: how it ends, and whether it made a log file. -/
structure Run where
  ending : Ending
  logged : Bool
deriving DecidableEq, Repr

namespace Startup

/-- Where the log is kept while the console browses. -/
def logPath (env : List (String × String)) : String :=
  Settings.joinPath ((env.lookup "TMPDIR").getD "/tmp") "orgdesk.log"

/-- The client that the settings and the arguments describe. -/
def client (around : Surroundings) (a : Arguments) : Except StartupFailure Client := do
  let settings ← (Settings.load around.file? around.environment a.config).mapError .settings
  (Client.ofConfig (settings.apiConfig a)).mapError .client

variable {σ : Type} (send : Transport σ) (backend : σ)

/-- Run a command with a client. -/
def runWith (client : Client) (command : Command) : Ending :=
  match command with
  | .browse => .failed .terminal
  | command =>
    match command.run (client.directory send) ⟨backend, []⟩ with
    | .ok text _ => .done text
    | .error why _ => .failed (.command why)

/-- Run the console with the words after its name. -/
def run (around : Surroundings) (words : List String) : Run :=
  match Arguments.parse around.environment words with
  | .error why => ⟨.usage why, false⟩
  | .ok a =>
    let command := a.command.getD .browse
    let logs := command = .browse
    let path := logPath around.environment
    if logs && !around.canCreate path then ⟨.failed (.log path), false⟩
    else match client around a with
      | .error why => ⟨.failed why, logs⟩
      | .ok c => ⟨runWith send backend c command, logs⟩

end Startup

end OrgConsole
