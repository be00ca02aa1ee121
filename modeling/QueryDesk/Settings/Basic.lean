import QueryDesk.Api.Connection
import QueryDesk.Error
import QueryDesk.Http.ApiRoot
import QueryDesk.Log.Basic
import QueryDesk.Settings.Environment
import QueryDesk.Table
import QueryDesk.Toml.Document

/-!
# Settings

* `Settings.load`           the settings that a file holds, the usual ones if there is no file;
* `ApiSettings.fillFrom`    what the environment says of things that the settings leave open;
* `Settings.connection?`    the parameters of a named connection.
-/

namespace QueryDesk

/-! ## the parts -/

structure ApiSettings where
  baseUrl : String
  user : Option String
  password : Option String
  /-- seconds after which a request is given up -/
  timeout : Option UInt64
deriving DecidableEq

structure QuerySettings where
  /-- rows that a query may return -/
  rowLimit : UInt32
  /-- entries that the log keeps -/
  logCapacity : UInt64
deriving DecidableEq

structure Settings where
  api : ApiSettings
  query : QuerySettings
  connections : Table String ConnectionParams

/-! ## the settings of a program that is told nothing -/

namespace ApiSettings

def defaultUrl : String := "http://127.0.0.1:8989/v1"

def usual : ApiSettings := ⟨defaultUrl, none, none, none⟩

/-- the root that the settings name -/
def root (s : ApiSettings) : Except ConsoleError ApiRoot :=
  (ApiRoot.read s.baseUrl).mapError fun fault => .config fault.text

end ApiSettings

namespace QuerySettings

def defaultRowLimit : UInt32 := 10000

def usual : QuerySettings := ⟨defaultRowLimit, .ofNat QueryLog.defaultCapacity⟩

end QuerySettings

namespace Settings

def usual : Settings := ⟨.usual, .usual, .empty⟩

/-- the name of the connection that is meant when none is named -/
def defaultConnection : String := "default"

def connection? (s : Settings) (name : Option String) : Option ConnectionParams :=
  s.connections.get? (name.getD defaultConnection)

end Settings

/-! ## files -/

/-- what there is at the place of a file -/
inductive StoredFile where
  | absent
  | unreadable (reason : String)
  | bytes (content : ByteArray)

open Json Json.Reading

def ApiSettings.reading : Reading ApiSettings := fun room s =>
  if Toml.hasItems 4 s then
    record ["base_url", "user", "password", "timeout_secs"] (fun room fields => do
      let baseUrl ← defaulted ApiSettings.defaultUrl string "base_url" room fields
      let user ← defaulted none (map some string) "user" room fields
      let password ← defaulted none (map some string) "password" room fields
      let timeout ← defaulted none (map some nat64) "timeout_secs" room fields
      return ⟨baseUrl, user, password, timeout.map .ofNat⟩) room (Toml.firstItems 4 s)
  else none

def QuerySettings.reading : Reading QuerySettings := fun room s =>
  record ["row_limit", "log_capacity"] (fun room fields => do
    let rowLimit ← defaulted QuerySettings.defaultRowLimit.toNat nat32 "row_limit" room fields
    let logCapacity ← defaulted QueryLog.defaultCapacity nat64 "log_capacity" room fields
    return ⟨.ofNat rowLimit, .ofNat logCapacity⟩) room (Toml.firstItems 2 s)

namespace Settings

/-- a named connection -/
def connection (room : Nat) (member : List Piece × Source) :
    Option (String × ConnectionParams) := do
  return (← Piece.text? member.1, ← ConnectionParams.reading room (Toml.firstItems 5 member.2))

/-- connections under their names; keys of a document differ -/
def connectionTable : Reading (Table String ConnectionParams)
  | room + 1, .object members => (members.mapM (connection room)).map Table.mk
  | _, _ => none

def reading : Reading Settings :=
  record ["api", "query", "connections"] fun room fields => do
    let api ← defaulted ApiSettings.usual ApiSettings.reading "api" room fields
    let query ← defaulted QuerySettings.usual QuerySettings.reading "query" room fields
    let connections ← defaulted Table.empty connectionTable "connections" room fields
    return ⟨api, query, connections⟩

/-- the settings that a text holds, if its root is an address of the web; what is said of a text that
cannot be read names the file, not the place of the fault -/
def ofToml (path text : String) : Except ConsoleError Settings :=
  match (Toml.read text).bind (reading depth) with
  | none => .error (.config ("Configuration error in " ++ path))
  | some s => s.api.root.map fun _ => s

def load (path : String) : StoredFile → Except ConsoleError Settings
  | .absent => .ok usual
  | .unreadable reason => .error (.config ("Failed to read config file: " ++ reason))
  | .bytes bytes =>
    match String.fromUTF8? bytes with
    | none => .error (.config "Failed to read config file: stream did not contain valid UTF-8")
    | some text => ofToml path text

end Settings

/-! ## the environment -/

/-- the environment says what the settings leave open, and a root that they leave as it usually
is -/
def ApiSettings.fillFrom (env : Environment) (s : ApiSettings) : ApiSettings :=
  { s with
    baseUrl := if s.baseUrl = defaultUrl then (env "CONSOLE_API_URL").getD s.baseUrl else s.baseUrl
    user := s.user.or (env "CONSOLE_API_USER")
    password := s.password.or (env "CONSOLE_API_PASSWORD") }

def Settings.fillFrom (env : Environment) (s : Settings) : Settings :=
  { s with api := s.api.fillFrom env }

end QueryDesk
