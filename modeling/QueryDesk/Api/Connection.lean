import QueryDesk.Api.Result
import QueryDesk.Error

/-!
# Calls of the server

The four things that a server can be asked, what it answers to each, and the records of both on the
wire.

* `ConnectionId`       the name that the server gives to a connection;
* `ConnectionInfo`     what the server says of a connection that it opened or cloned;
* `ConnectionParams`   what it is told to open;
* `QueryRequest`       what it is told to run;
* `Call`, `Call.Reply`   a call of the server, and the reply to it.
-/

namespace QueryDesk

open Json Json.Reading

structure ConnectionId where
  text : String
deriving DecidableEq

/-! ## connections -/

structure ConnectionInfo where
  id : ConnectionId
  /-- the server's thread that runs the queries of the connection -/
  thread : UInt64
  secondsIdle : Option Binary64
deriving DecidableEq

namespace ConnectionInfo

def toJson (c : ConnectionInfo) : Json :=
  .object [("id", .string c.id.text),
    ("attributes", .object [("thread_id", .nat c.thread.toNat),
      ("seconds_idle", (c.secondsIdle.map fun x => Json.number (.real x)).getD .null)])]

def attributes : Reading (UInt64 × Option Binary64) :=
  record ["thread_id", "seconds_idle"] fun room fields => do
    return (.ofNat (← defaulted 0 nat64 "thread_id" room fields),
      ← defaulted none (optional double) "seconds_idle" room fields)

def reading : Reading ConnectionInfo :=
  record ["id", "attributes"] fun room fields => do
    let id ← required string "id" room fields
    let (thread, idle) ← defaulted (0, none) attributes "attributes" room fields
    return ⟨⟨id⟩, thread, idle⟩

end ConnectionInfo

/-! ## parameters -/

structure ConnectionParams where
  /-- the server, service or listener to connect to -/
  target : String
  user : String
  password : String
  db : Option String
  /-- seconds without a query after which the server closes the connection -/
  timeout : UInt64
deriving DecidableEq

namespace ConnectionParams

def defaultTimeout : UInt64 := 300

/-- no password, no database, the usual timeout -/
def fresh (target user : String) : ConnectionParams := ⟨target, user, "", none, defaultTimeout⟩

/-- how a connection is shown; the password is not -/
def display (p : ConnectionParams) : String :=
  p.user ++ "@" ++ p.target ++ (match p.db with
    | none => ""
    | some db => " (" ++ db ++ ")")

def toJson (p : ConnectionParams) : Json :=
  .object ([("target", .string p.target), ("user", .string p.user),
      ("password", .string p.password)]
    ++ ResultSet.ifPresent "db" p.db ++ [("timeout", .nat p.timeout.toNat)])

def reading : Reading ConnectionParams :=
  record ["target", "user", "password", "db", "timeout"] fun room fields => do
    let target ← required string "target" room fields
    let user ← required string "user" room fields
    let password ← defaulted "" string "password" room fields
    let db ← defaulted none (optional string) "db" room fields
    let timeout ← defaulted defaultTimeout.toNat nat64 "timeout" room fields
    return ⟨target, user, password, db, .ofNat timeout⟩

end ConnectionParams

/-! ## requests -/

structure QueryRequest where
  sql : String
  maxRows : Option UInt32
deriving DecidableEq

namespace QueryRequest

def toJson (r : QueryRequest) : Json :=
  .object (("sql", .string r.sql) :: match r.maxRows with
    | none => []
    | some n => [("max_rows", .nat n.toNat)])

def reading : Reading QueryRequest :=
  record ["sql", "max_rows"] fun room fields => do
    let sql ← required string "sql" room fields
    let maxRows ← defaulted none (optional nat32) "max_rows" room fields
    return ⟨sql, maxRows.map .ofNat⟩

end QueryRequest

/-! ## calls -/

/-- a handle by which a query can be given up -/
structure CancelToken where
  number : Nat
deriving DecidableEq

inductive Call where
  | connect (params : ConnectionParams)
  | clone (id : ConnectionId)
  /-- given up once the token is cancelled -/
  | query (id : ConnectionId) (request : QueryRequest) (abort : Option CancelToken)
  | release (id : ConnectionId)
deriving DecidableEq

namespace Call

/-- what a call is answered with when it succeeds -/
def Answer : Call → Type
  | connect _ | clone _ => ConnectionInfo
  | query .. => ResultSet
  | release _ => Unit

abbrev Reply (c : Call) : Type := Except ConsoleError c.Answer

/-- the handle by which a call can be given up -/
def abort? : Call → Option CancelToken
  | query _ _ abort => abort
  | _ => none

end Call

end QueryDesk
