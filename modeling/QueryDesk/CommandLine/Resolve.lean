import QueryDesk.CommandLine.Basic
import QueryDesk.Settings.Basic

/-!
# What a command line asks for

Options go before the settings of a file, those before the environment, that before what is usual.

* `CommandLine.override`     settings with the options in their place;
* `CommandLine.connect`      the parameters of the connection that is meant;
* `CommandLine.killDelay`    the delay after which a query is killed.
-/

namespace QueryDesk.CommandLine

/-- the place of the settings -/
def settingsPath (env : Environment) (line : CommandLine) : String :=
  line.settingsFile.getD env.settingsFile

def override (line : CommandLine) (s : Settings) : Settings :=
  { s with api := { s.api with baseUrl := line.apiUrl.getD s.api.baseUrl } }

/-! ## the connection -/

/-- why there is no connection -/
def missing (line : CommandLine) : ConsoleError :=
  match line.connection with
  | some name => .config ("Connection '" ++ name ++ "' not found in config file")
  | none => .config
    "No connection configured. Pass --target and --user or add [connections.default]"

/-- what the options leave open comes from here: from nothing when they name target and user, else
from the connection that is named -/
def base (line : CommandLine) (s : Settings) : Except ConsoleError ConnectionParams :=
  match line.target, line.user with
  | some target, some user => .ok (.fresh target user)
  | _, _ =>
    match s.connection? line.connection with
    | some params => .ok params
    | none => .error line.missing

/-- parameters with the options in their place -/
def overrideParams (line : CommandLine) (p : ConnectionParams) : ConnectionParams :=
  { p with
    target := line.target.getD p.target
    user := line.user.getD p.user
    password := line.password.getD p.password
    db := line.db.or p.db }

def connect (line : CommandLine) (s : Settings) : Except ConsoleError ConnectionParams :=
  (line.base s).map line.overrideParams

/-! ## the delay -/

def killDelay (line : CommandLine) : Except ConsoleError (Option Delay) :=
  line.command.killDelay.mapError fun fault => .config ("Invalid --kill-after: " ++ fault.text)

end QueryDesk.CommandLine
