import QueryDesk.Run.Basic

/-!
# What a run leaves behind

A `Report` is what a user sees at the end: the exit code, the lines of the output and of the
messages.

* `Run.report`       the report of a run that is over: the notices, then the result or the error;
* `Refusal.report`   the report of a command line that is not carried out.
-/

namespace QueryDesk

structure Report where
  code : Nat
  output : List String
  messages : List String
deriving DecidableEq

namespace Report

def ofFailure (text : String) : Report := ⟨1, [], ["Error: " ++ text]⟩

/-- a message goes in front of the others -/
def withMessages (r : Report) (messages : List String) : Report :=
  { r with messages := messages ++ r.messages }

end Report

/-! ## runs -/

def RunResult.report (names : Names) : RunResult → Report
  | .ok set => ⟨0, [set.toJson.pretty], []⟩
  | .error failure => .ofFailure (failure.text names)

/-- notices, each with its lines -/
def noticeTexts (q : NoticeQueue) : List String := q.pending.map fun n => "\n".intercalate n.lines

def Run.report (names : Names) (r : Run) (result : RunResult) : Report :=
  (result.report names).withMessages (noticeTexts r.session.notices)

/-! ## command lines -/

def programName : String := "query-console"

def versionLine : String := programName ++ " 0.1.0"

def usage : List String := [
  "Runs SQL and previews through a database console's REST SQL API",
  "",
  "Usage: " ++ programName ++ " [OPTIONS] <COMMAND>",
  "",
  "Commands:",
  "  query <SQL> [--kill-after <SECS>]  Run SQL in a fresh query tab and print the result as JSON",
  "  preview <TARGET> [--details]       Preview the data of a table or view",
  "  help [COMMAND]                     Print this message",
  "",
  "Options:",
  "      --config <PATH>        Path to configuration file",
  "  -c, --connection <NAME>    Named connection from config file",
  "      --api-url <URL>        REST API root (overrides config and CONSOLE_API_URL)",
  "  -t, --target <TARGET>      Connection target (server, service or listener name)",
  "  -U, --user <USER>          Connection user",
  "      --password <PASSWORD>  Connection password [env: CONSOLE_SQL_PASSWORD]",
  "  -d, --db <DATABASE>        Default database for the connection",
  "      --log-file             Write logs to the state directory instead of stderr",
  "  -h, --help                 Print help",
  "  -V, --version              Print version"]

namespace CommandLine.Refusal

def text : Refusal → String
  | help | version | bare => ""
  | noCommand => "a command is needed"
  | unknownCommand => "there is no such command"
  | unknownOption => "there is no such argument"
  | missingValue => "an option needs a value"
  | badValue => "a value is no number"
  | needlessValue => "an option takes no value"
  | repeated => "an option comes twice"
  | missingOperand => "an argument is missing"

/-- help and version are no failures -/
def report : Refusal → Report
  | help => ⟨0, usage, []⟩
  | version => ⟨0, [versionLine], []⟩
  | bare => ⟨2, [], usage⟩
  | r => ⟨2, [], ["error: " ++ r.text]⟩

end CommandLine.Refusal

end QueryDesk
