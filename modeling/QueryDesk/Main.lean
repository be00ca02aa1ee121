import QueryDesk.Run.Errand

/-!
# The program

Arguments, environment and files are read, the run is carried out, and its report is printed.  No
network is linked in: every server is out of reach.
-/

namespace QueryDesk

/-- the variables that the console looks at -/
def variableNames : List String :=
  ["CONSOLE_API_URL", "CONSOLE_API_USER", "CONSOLE_API_PASSWORD", CommandLine.passwordVariable,
    "HOME", "XDG_CONFIG_HOME", "XDG_STATE_HOME", "TMPDIR"]

def readEnvironment : IO Environment := do
  let values ← variableNames.filterMapM fun name => do
    return (← IO.getEnv name).map (name, ·)
  return .ofList values

def readFile (path : String) : IO StoredFile := do
  try return .bytes (← IO.FS.readBinFile path)
  catch
    | .noFileOrDirectory .. => return .absent
    | e => return .unreadable (toString e)

/-- an empty log, or why there is none -/
def beginLog (env : Environment) : IO (List String) := do
  try IO.FS.createDirAll env.logDirectory
  catch e => return ["Warning: Could not create log directory: " ++ toString e]
  try IO.FS.writeFile env.logFile ""
  catch e => return ["Warning: Could not create log file: " ++ toString e]
  return []

def exchange (_ : Except ConsoleError Http.Request) : IO Http.Exchange :=
  return .unreachable "there is no network"

/-- what happens next to an errand that is not over -/
def nextEvent (w : Errand) : IO Event := do
  match w.request? with
  | some request => return .exchange (← exchange request)
  | none => return .proceed

partial def carryOut (w : Errand) : IO Report := do
  match w.report? Names.numbered with
  | some report => return report
  | none => carryOut (w.step (← nextEvent w))

def print (report : Report) : IO UInt32 := do
  for line in report.messages do IO.eprintln line
  for line in report.output do IO.println line
  return report.code.toUInt32

def runLine (env : Environment) (line : CommandLine) : IO Report := do
  let warnings ← if line.logFile then beginLog env else pure []
  let file ← readFile (line.settingsPath env)
  let report ← carryOut (.start env line file)
  return report.withMessages warnings

end QueryDesk

open QueryDesk

def main (arguments : List String) : IO UInt32 := do
  let env ← readEnvironment
  match CommandLine.parse env (programName :: arguments) with
  | .error refusal => print refusal.report
  | .ok line => print (← runLine env line)
