import OrgConsole.CommandLine.Arguments
import OrgConsole.Http.Client
/-!
# Settings

What the settings file and the environment say, and how the command line goes before them.
-/

namespace OrgConsole

/-- Settings by name. -/
structure Settings where
  url : Option String
  user : Option String
  /-- An older name of `user`, which goes before it. -/
  username : Option String
  password : Option String
deriving DecidableEq, Repr

namespace Settings

/-- Where the backend is, if nothing is said. -/
def defaultUrl : String := "http://localhost:8080"

/-- A value of the command line, else of the settings; an empty one is none. -/
def pick (flag setting : Option String) : Option String :=
  (flag <|> setting).filter (!·.isEmpty)

/-- How to reach the backend: by the command line, else by the settings, else by default. -/
def apiConfig (s : Settings) (a : Arguments) : ApiConfig where
  baseUrl := (pick a.url s.url).getD defaultUrl
  username := (pick a.user (s.user <|> s.username)).getD ""
  password := (pick a.password s.password).getD ""

end Settings

end OrgConsole
