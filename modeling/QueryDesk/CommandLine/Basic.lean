import QueryDesk.CommandLine.Grammar
import QueryDesk.Settings.Environment
import QueryDesk.Time.Delay

/-!
# The command line

* `CommandLine`          what a user asks for: options, and a command;
* `CommandLine.parse`    a list of words, the first one being the name of the program;
* `Command.killDelay`    how long a query may take before it is killed.
-/

namespace QueryDesk

inductive Command where
  /-- statements, with the seconds after which they are killed -/
  | query (sql : String) (killAfter : Option Quantity)
  /-- a table, to be shown or described -/
  | preview (target : String) (details : Bool)
deriving DecidableEq

structure CommandLine where
  settingsFile : Option String
  connection : Option String
  apiUrl : Option String
  target : Option String
  user : Option String
  password : Option String
  db : Option String
  /-- logs go to a file -/
  logFile : Bool
  command : Command
deriving DecidableEq

namespace CommandLine

/-! ## what may stand on it -/

/-- the keys of the console's own options -/
inductive Key where
  | settingsFile | connection | apiUrl | target | user | password | db | logFile
deriving DecidableEq

def grammar : Grammar Key where
  long
    | "config" => some (.value .settingsFile)
    | "connection" => some (.value .connection)
    | "api-url" => some (.value .apiUrl)
    | "target" => some (.value .target)
    | "user" => some (.value .user)
    | "password" => some (.value .password)
    | "db" => some (.value .db)
    | "log-file" => some (.switch .logFile)
    | "help" => some .help
    | "version" => some .version
    | _ => none
  short
    | 'c' => some (.value .connection)
    | 't' => some (.value .target)
    | 'U' => some (.value .user)
    | 'd' => some (.value .db)
    | 'h' => some .help
    | 'V' => some .version
    | _ => none
  operands := []
  commands := ["query", "preview", "help"]
  check
    | .settingsFile, "" => some .missingValue
    | _, _ => none

inductive QueryKey where
  | sql | killAfter
deriving DecidableEq

def queryGrammar : Grammar QueryKey where
  long
    | "kill-after" => some (.value .killAfter)
    | "help" => some .help
    | _ => none
  short
    | 'h' => some .help
    | _ => none
  operands := [.sql]
  commands := []
  check
    | .killAfter, v => if (Quantity.parse? v).isSome then none else some .badValue
    | .sql, _ => none

inductive PreviewKey where
  | target | details
deriving DecidableEq

def previewGrammar : Grammar PreviewKey where
  long
    | "details" => some (.switch .details)
    | "help" => some .help
    | _ => none
  short
    | 'h' => some .help
    | _ => none
  operands := [.target]
  commands := []
  check _ _ := none

/-! ## reading -/

/-- all words of a command -/
def scan {κ : Type} [DecidableEq κ] (g : Grammar κ) (ws : List String) :
    Except Refusal (Scan κ) := do
  let (s, _) ← Scan.words g ws (.start g)
  s.settle g

def readQuery (ws : List String) : Except Refusal Command := do
  let s ← scan queryGrammar ws
  match s.value? .sql with
  | none => throw .missingOperand
  | some sql => return .query sql ((s.value? .killAfter).bind Quantity.parse?)

def readPreview (ws : List String) : Except Refusal Command := do
  let s ← scan previewGrammar ws
  match s.value? .target with
  | none => throw .missingOperand
  | some target => return .preview target (s.has .details)

/-- help for a command; no command has commands of its own -/
def readHelp : List String → Refusal
  | [] => .help
  | [name] => if name ∈ grammar.commands then .help else .unknownCommand
  | _ => .unknownCommand

def readCommand (name : String) (ws : List String) : Except Refusal Command :=
  match name with
  | "query" => readQuery ws
  | "preview" => readPreview ws
  | _ => .error (readHelp ws)

/-- the variable that holds the password when no option does -/
def passwordVariable : String := "CONSOLE_SQL_PASSWORD"

def parse (env : Environment) (arguments : List String) : Except Refusal CommandLine := do
  let (s, rest) ← Scan.words grammar (arguments.drop 1) (.start grammar)
  match rest with
  | none =>
    let s ← s.settle grammar
    throw (if s.settled.isEmpty && (env passwordVariable).isNone then .bare else .noCommand)
  | some (name, ws) =>
    let command ← readCommand name ws
    let s ← s.settle grammar
    return {
      settingsFile := s.value? .settingsFile
      connection := s.value? .connection
      apiUrl := s.value? .apiUrl
      target := s.value? .target
      user := s.value? .user
      password := (s.value? .password).or (env passwordVariable)
      db := s.value? .db
      logFile := s.has .logFile
      command }

end CommandLine

/-! ## the delay of a query -/

/-- no delay is asked for, or the delay, or why it is none -/
def Command.killDelay : Command → Except Delay.Fault (Option Delay)
  | .query _ (some seconds) => (Delay.ofSeconds seconds).map some
  | _ => .ok none

end QueryDesk
