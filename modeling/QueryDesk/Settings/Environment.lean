/-!
# Environment

The variables that a program is started with, and the files whose places they say:

* `Environment.settingsFile`   where the settings are read from;
* `Environment.logFile`        where a log is written to.
-/

namespace QueryDesk

/-- the value of each variable that is set -/
abbrev Environment := String → Option String

namespace Environment

def ofList (values : List (String × String)) : Environment := fun name => values.lookup name

/-! ## paths -/

def isAbsolute (path : String) : Bool := path.toList.head? = some '/'

/-- a name below a directory -/
def below (directory name : String) : String :=
  if directory.toList.getLast? = some '/' then directory ++ name else directory ++ "/" ++ name

/-! ## directories -/

def home? (env : Environment) : Option String :=
  (env "HOME").bind fun home => if home = "" then none else some home

/-- the directory that a variable says, if absolute, else one below the home directory -/
def directory? (env : Environment) (variableName usual : String) : Option String :=
  match env variableName with
  | some path => if isAbsolute path then some path else env.home?.map (below · usual)
  | none => env.home?.map (below · usual)

def configDirectory? (env : Environment) : Option String :=
  env.directory? "XDG_CONFIG_HOME" ".config"

def stateDirectory? (env : Environment) : Option String :=
  env.directory? "XDG_STATE_HOME" ".local/state"

/-! ## files -/

def settingsFile (env : Environment) : String :=
  below (below (env.configDirectory?.getD ".") "query-console") "config.toml"

def logDirectory (env : Environment) : String :=
  match env.stateDirectory?.or env.configDirectory? with
  | some directory => below directory "query-console"
  | none => (env "TMPDIR").getD "/tmp"

def logFile (env : Environment) : String := below env.logDirectory "query-console.log"

end Environment

end QueryDesk
