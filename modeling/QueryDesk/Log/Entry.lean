import QueryDesk.Api.Result
import QueryDesk.Json.Printer
import QueryDesk.Time.Rfc3339

/-!
# Entries of the query log

* `LogEntry`            a statement that was run: when, on which connection, with what result;
* `LogEntry.Origin`     who had it run;
* `LogEntry.toJson`, `LogEntry.reading`   its form in a file.
-/

namespace QueryDesk

open Json Json.Reading

/-- who had a statement run -/
inductive LogEntry.Origin where
  | user
  | console
deriving DecidableEq

inductive LogEntry.Result where
  | data (set : ResultSet)
  | error (text : String)

structure LogEntry where
  start : Instant
  /-- what the statement is called; those of a user have no name -/
  name : Option String
  sql : String
  result : LogEntry.Result
  connection : String
  origin : LogEntry.Origin

namespace LogEntry

def Origin.text : Origin → String
  | user => "user_logs"
  | console => "action_logs"

def Origin.ofText? (s : String) : Option Origin :=
  if s = user.text then some user else if s = console.text then some console else none

theorem Origin.ofText?_text (o : Origin) : ofText? o.text = some o := by cases o <;> decide

/-- a name alone, or an object with the name and `null` -/
def Origin.reading : Reading Origin
  | room, .string pieces => (string room (.string pieces)).bind ofText?
  | room, s => tagged (fun _ key v => match v with
    | .null => ofText? key
    | _ => none) room s

def Result.toJson : Result → Json
  | data set => .object [("data", set.toJson)]
  | error text => .object [("error", .string text)]

def Result.reading : Reading Result :=
  tagged fun room key v =>
    if key = "data" then (ResultSet.reading room v).map data
    else if key = "error" then (string room v).map error
    else none

def toJson (e : LogEntry) : Json :=
  .object ([("start_time", .string e.start.text)] ++ ResultSet.ifPresent "name" e.name ++
    [("sql", .string e.sql), ("result", e.result.toJson), ("connection_name", .string e.connection),
      ("log_type", .string e.origin.text)])

def reading : Reading LogEntry :=
  record ["start_time", "name", "sql", "result", "connection_name", "log_type"]
      fun room fields => do
    let start ← Instant.ofText? (← required string "start_time" room fields)
    let name ← defaulted none (optional string) "name" room fields
    let sql ← required string "sql" room fields
    let result ← required Result.reading "result" room fields
    let connection ← required string "connection_name" room fields
    let origin ← required Origin.reading "log_type" room fields
    return ⟨start, name, sql, result, connection, origin⟩

end LogEntry

end QueryDesk
