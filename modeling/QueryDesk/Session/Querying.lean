import QueryDesk.Json.Printer
import QueryDesk.Session.TabLife

/-!
# Queries, previews and stops

* `preview`   a look at a table, into one of the tab's two preview slots;
* `query`     a statement of the user, into the tab's query slot;
* `stop`      asks the server, on the worksheet's connection, to stop the query that is running.

An answer is written into a slot only while its request owns the slot; so of requests that overlap,
the last one wins.  A query that has been stopped ends with the result for stopped queries, whatever
the server sends.  Statements are logged when they end, those of a stop never.
-/

namespace QueryDesk

/-! ## memory -/

namespace TabMemory

def modifyPreview (m : TabMemory) (mode : Preview) (f : Slot → Slot) : TabMemory :=
  match mode with
  | .data => { m with data := f m.data }
  | .details => { m with details := f m.details }

/-- a query of the user takes the query slot over -/
def beginQuery (m : TabMemory) (q : Sent) : TabMemory :=
  { m with
    busy := true
    query := ⟨{ m.query.result.begin q.request q.time with data := none }, some q.token, .running⟩ }

/-- the query has ended; nothing happens unless it owns the slot -/
def settleQuery (m : TabMemory) (q : Sent) (duration : Binary64) (data : Option ResultSet) :
    TabMemory :=
  if m.query.result.ownedBy q.request then
    { m with busy := false, query := ⟨m.query.result.settle data duration, none, .settled⟩ }
  else m

/-- the request that is running -/
def running? (m : TabMemory) : Option RequestId :=
  if m.query.state = .running then m.query.result.owner else none

end TabMemory

namespace Session

/-! ## previews -/

def sent (s : Session) (tab : TabId) (c : Connection) (sql : String) : Sent × Session :=
  let (request, s') := s.drawRequest
  (⟨tab, c, request, s.now, ⟨sql, some s.rowLimit⟩⟩, s')

def preview (s : Session) (tab : TabId) (target : String) (mode : Preview) : Step :=
  match s.connectionOf tab with
  | .error e => s.fail e
  | .ok c =>
    let escaped := Sql.Identifier.escapeText target
    let (q, s) := s.sent tab c (mode.sql escaped)
    (s.remember tab (·.modifyPreview mode (·.begin q.request q.time)),
      .waits (.previewing q mode (mode.title escaped)))

/-- the owner of a preview slot has an answer -/
def settlePreview (s : Session) (q : Sent) (mode : Preview) (f : Slot → Slot) : Session :=
  s.remember q.tab (·.modifyPreview mode fun slot =>
    if slot.ownedBy q.request then f slot else slot)

def previewed (s : Session) (q : Sent) (mode : Preview) (title : String) :
    Except ConsoleError ResultSet → Step
  | .error e => (s.settlePreview q mode fun slot => { slot with loading := false }).fail e
  | .ok set =>
    let s := s.settlePreview q mode (·.settle (some set) (q.time.elapsed s.now))
    (s.record ⟨q.time, some title, q.statement.sql, .data set, q.connection.name, .console⟩).finish
      (.preview set)

/-! ## queries -/

def query (s : Session) (tab : TabId) (sql : String) : Step :=
  match s.connectionOf tab with
  | .error e => s.fail e
  | .ok c =>
    let (q, s) := s.sent tab c sql
    (s.remember tab (·.beginQuery q), .waits (.querying q))

/-- how an answer stands to the slot that it was meant for -/
inductive Standing where
  /-- the slot belongs to another request, or is gone -/
  | stale
  | killed
  | current
deriving DecidableEq

def standing (s : Session) (q : Sent) : Standing :=
  match s.store.memory.get? q.tab with
  | none => .stale
  | some m =>
    if m.query.result.ownedBy q.request then (if m.isKilled then .killed else .current) else .stale

def recordQuery (s : Session) (q : Sent) (result : LogEntry.Result) : Session :=
  s.record ⟨q.time, none, q.statement.sql, result, q.connection.name, .user⟩

/-- the query has ended: the slot is written, and the end is logged -/
def endQuery (s : Session) (q : Sent) (duration : Binary64) (data : Option ResultSet)
    (result : LogEntry.Result) (outcome : QueryOutcome) : Step :=
  ((s.remember q.tab (·.settleQuery q duration data)).recordQuery q result).finish (.query outcome)

def completeQuery (s : Session) (q : Sent) (duration : Binary64) (set : ResultSet) : Step :=
  s.endQuery q duration (some set) (.data set) (.completed set)

def resultOf : Except ConsoleError ResultSet → LogEntry.Result
  | .ok set => .data set
  | .error e => .error e.message

def queried (s : Session) (q : Sent) (reply : Except ConsoleError ResultSet) : Step :=
  let duration := q.time.elapsed s.now
  match s.standing q, reply with
  | .stale, reply => (s.recordQuery q (resultOf reply)).finish (.query .superseded)
  | .killed, _ =>
    let set := ResultSet.canceled q.statement.sql
    s.endQuery q duration (some set) (.data set) (.killed set)
  | .current, .error e => s.endQuery q duration none (.error e.message) (.failed e)
  | .current, .ok set =>
    if Sql.isDatabaseSwitch q.statement.sql then (s, .waits (.switching q set duration))
    else s.completeQuery q duration set

/-- a switch of the database is complete once the new one is known, or cannot be known -/
def switched (s : Session) (q : Sent) (set : ResultSet) (duration : Binary64) :
    Except ConsoleError ResultSet → Step
  | .error _ => s.completeQuery q duration set
  | .ok answer => (s.setDatabase q.connection.id answer).completeQuery q duration set

/-! ## stops -/

def stop (s : Session) (tab : TabId) : Step :=
  match s.store.tabs.tab? tab with
  | none => s.fail (.notFound (.tab tab))
  | some t =>
    match s.connectionOf tab with
    | .error e => s.fail e
    | .ok c =>
      match s.store.connections.ofWorksheet? t.worksheet with
      | none => s.fail (.notFound (.worksheetConnection t.worksheet))
      | some via =>
        (s, .waits (.killing tab via.id c.thread ((s.store.memory.get? tab).bind (·.running?))))

/-- a value as it reads in a message: a text without its quotes -/
def plain : Json → String
  | .string text => text
  | j => j.compact

def refusal (row : List (String × Json)) : List String :=
  "Failed to stop the query" :: row.map fun m => m.1 ++ ": " ++ plain m.2

/-- the request that was running when the stop was sent is to be stopped, if it still runs -/
def markKilled (s : Session) (tab : TabId) (target : Option RequestId) : Session :=
  match s.store.memory.get? tab with
  | none => s
  | some m =>
    if target.isSome ∧ m.running? = target then
      let s := s.remember tab fun m => { m with query := { m.query with state := .killRequested } }
      match m.query.abort with
      | some token => s.cancel token
      | none => s
    else s

def killed (s : Session) (tab : TabId) (target : Option RequestId) :
    Except ConsoleError ResultSet → Step
  | .error e => s.finish (.stop (.unreachable e))
  | .ok set =>
    match set.firstError? with
    | some row => (s.notify ⟨.error, refusal row⟩).finish (.stop (.refused (refusal row)))
    | none => (s.markKilled tab target).finish (.stop .killed)

/-- both preview slots of a tab are emptied -/
def clearPreviews (s : Session) (tab : TabId) : Session := s.remember tab (·.clearPreviews)

end Session

end QueryDesk
