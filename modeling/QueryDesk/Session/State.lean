import QueryDesk.Log.Basic
import QueryDesk.Session.Connections
import QueryDesk.Session.Memory
import QueryDesk.Session.Tabs

/-!
# The state of a session

* `Store`         worksheets and tabs, what the tabs remember, the connections;
* `NoticeQueue`   what the user is to be told: the console shows nothing itself, and whoever does
  drains the queue;
* `Session`       the store, the log, the notices, the handles given up so far, the time, and the
  numbers from which identities are drawn.
-/

namespace QueryDesk

/-! ## notices -/

inductive Notice.Kind where
  | info
  | error
deriving DecidableEq

structure Notice where
  kind : Notice.Kind
  lines : List String
deriving DecidableEq

/-- notices that wait to be shown, the oldest first -/
structure NoticeQueue where
  pending : List Notice
deriving DecidableEq

namespace NoticeQueue

def empty : NoticeQueue := ⟨[]⟩

def push (q : NoticeQueue) (n : Notice) : NoticeQueue := ⟨q.pending ++ [n]⟩

/-- all notices that wait, and the queue without them -/
def drain (q : NoticeQueue) : List Notice × NoticeQueue := (q.pending, empty)

end NoticeQueue

/-! ## the session -/

structure Store where
  tabs : Tabs
  memory : Memories
  connections : Connections

structure Session where
  store : Store
  log : QueryLog
  notices : NoticeQueue
  /-- the handles that were cancelled, the last one first -/
  cancelled : List CancelToken
  /-- nanoseconds since 1970 -/
  clock : Int
  /-- rows asked for with every query -/
  rowLimit : UInt32
  worksheetsDrawn : Nat
  tabsDrawn : Nat
  requestsSent : Nat

namespace Session

/-- a session without worksheets -/
def empty (rowLimit : UInt32) (logCapacity : Nat) (clock : Int) : Session :=
  ⟨⟨Tabs.empty, Table.empty, Connections.empty⟩, QueryLog.empty logCapacity, NoticeQueue.empty, [],
    clock, rowLimit, 0, 0, 0⟩

def now (s : Session) : Instant := Instant.ofNanos s.clock

def advance (s : Session) (nanos : Int) : Session := { s with clock := s.clock + nanos }

def isCancelled (s : Session) (token : CancelToken) : Bool := token ∈ s.cancelled

/-! ## changing one part -/

def mapTabs (s : Session) (f : Tabs → Tabs) : Session :=
  { s with store := { s.store with tabs := f s.store.tabs } }

def mapMemory (s : Session) (f : Memories → Memories) : Session :=
  { s with store := { s.store with memory := f s.store.memory } }

def mapConnections (s : Session) (f : Connections → Connections) : Session :=
  { s with store := { s.store with connections := f s.store.connections } }

/-- the memory of one tab changed, if the tab has one -/
def remember (s : Session) (tab : TabId) (f : TabMemory → TabMemory) : Session :=
  s.mapMemory (·.modify tab f)

def record (s : Session) (e : LogEntry) : Session := { s with log := s.log.push e }

def notify (s : Session) (n : Notice) : Session := { s with notices := s.notices.push n }

def cancel (s : Session) (token : CancelToken) : Session :=
  { s with cancelled := token :: s.cancelled }

/-! ## identities -/

def drawWorksheet (s : Session) : WorksheetId × Session :=
  (⟨s.worksheetsDrawn + 1⟩, { s with worksheetsDrawn := s.worksheetsDrawn + 1 })

def drawTab (s : Session) : TabId × Session :=
  (⟨s.tabsDrawn + 1⟩, { s with tabsDrawn := s.tabsDrawn + 1 })

def drawRequest (s : Session) : RequestId × Session :=
  (⟨s.requestsSent + 1⟩, { s with requestsSent := s.requestsSent + 1 })

/-! ## looking things up -/

/-- the connection of a tab, or what is missing -/
def connectionOf (s : Session) (tab : TabId) : Except ConsoleError Connection :=
  match s.store.tabs.tab? tab with
  | none => .error (.notFound (.tab tab))
  | some _ =>
    match s.store.connections.ofTab? tab with
    | none => .error (.notFound (.tabConnection tab))
    | some c => .ok c

end Session

end QueryDesk
