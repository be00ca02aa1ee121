import QueryDesk.Session.Task

/-!
# The life of tabs and their connections

Each operation is given in its parts: up to its first call of the server (`begin…`), and on from
each reply (`after…`).

* `openConnection`, `cloneConnection`, `release`, `refreshDatabase`   connections;
* `openWorksheet`, `closeWorksheet`                                   worksheets;
* `addTab`, `deleteTab`, `refreshLastTab`                             tabs.

A tab belongs to the store before its connection does; a connection that comes for a tab that is
gone is released again.  Of a connection that could not be released the record goes all the same.
-/

namespace QueryDesk.Session

/-- an operation up to its next call or its end -/
abbrev Step := Session × Progress

def fail (s : Session) (e : ConsoleError) : Step := (s, .ends (.error e))

def finish (s : Session) (o : Outcome) : Step := (s, .ends (.ok o))

/-! ## tabs -/

/-- a tab is done with its connection: it has one, or could not get it -/
def afterClone (s : Session) (tab : TabId) (r : Except ConsoleError Connection) : AfterClone → Step
  | .connection => (s, .ends (r.map .connection))
  | .tab => s.finish (.tab tab)
  | .worksheet w => s.finish (.worksheet w tab)

def defaultName (count : UInt32) : String := "Query Tab " ++ toString count.toNat

/-- a new tab with an empty editor and an empty memory -/
def insertTab (s : Session) (t : QueryTab) : Session :=
  (s.mapTabs (·.insertTab t)).mapMemory (·.insertFresh t.id)

/-- a tab at the end of a worksheet; it gets a connection if the worksheet has one -/
def beginTab (s : Session) (w : WorksheetId) (name : Option String) (next : AfterClone) : Step :=
  let (tab, s) := s.drawTab
  match s.store.tabs.worksheet? w with
  | none => s.fail (.notFound (.worksheet w))
  | some _ =>
    let count := s.store.tabs.nextCount w
    let s := s.insertTab ⟨tab, w, name.getD (defaultName count), count⟩
    match s.store.connections.ofWorksheet? w with
    | some c => (s, .waits (.cloning c tab next))
    | none => s.afterClone tab (.error (.notFound (.worksheetConnection w))) next

def addTab (s : Session) (w : WorksheetId) (name : Option String) : Step := s.beginTab w name .tab

/-- without a tab and its memory; its connection is left -/
def dropTab (s : Session) (tab : TabId) : Session :=
  (s.mapTabs (·.removeTab tab)).mapMemory (·.erase tab)

/-- the record of a connection goes, whatever the server said to its release -/
def forget (s : Session) (c : ConnectionId) : Session := s.mapConnections (·.remove c)

/-- the last tab of a worksheet as if it were new; it keeps its identity and its connection -/
def refreshLastTab (s : Session) (tab : TabId) : Except ConsoleError Session :=
  match s.store.tabs.tab? tab with
  | none => .error (.notFound (.tab tab))
  | some _ => .ok ((s.mapTabs (·.refreshTab tab)).mapMemory (·.reset tab))

/-! ## worksheets -/

def createWorksheet (s : Session) (name : String) : WorksheetId × Session :=
  let (w, s) := s.drawWorksheet
  (w, s.mapTabs (·.insertWorksheet w name))

/-- the tabs of a worksheet are gone: its connection follows, then the worksheet itself -/
def closeEmpty (s : Session) (w : WorksheetId) : Step :=
  match s.store.connections.ofWorksheet? w with
  | some c => (s, .waits (.closing w c.id))
  | none => (s.mapTabs (·.removeWorksheet w)).finish .done

/-- closing a worksheet whose tabs were these; a tab that is already gone ends it with an error -/
def closeTabs (s : Session) (w : WorksheetId) : List TabId → Step
  | [] => s.closeEmpty w
  | tab :: rest =>
    match s.store.tabs.tab? tab with
    | none => s.fail (.notFound (.tab tab))
    | some _ =>
      match s.store.connections.ofTab? tab with
      | some c => (s.dropTab tab, .waits (.deleting c.id (.close w rest)))
      | none => (s.dropTab tab).closeTabs w rest

def closeWorksheet (s : Session) (w : WorksheetId) : Step :=
  s.closeTabs w ((s.store.tabs.tabsOf w).map (·.id))

def deleteTab (s : Session) (tab : TabId) : Step :=
  match s.store.tabs.tab? tab with
  | none => s.fail (.notFound (.tab tab))
  | some _ =>
    match s.store.connections.ofTab? tab with
    | some c => (s.dropTab tab, .waits (.deleting c.id .done))
    | none => (s.dropTab tab).finish .done

def afterDelete (s : Session) : AfterDelete → Step
  | .done => s.finish .done
  | .close w rest => s.closeTabs w rest

/-! ## connections of worksheets -/

/-- a connection for a worksheet; the one it had is released -/
def beginOpen (s : Session) (w : WorksheetId) (params : ConnectionParams) (next : AfterOpen) :
    Step :=
  match s.store.tabs.worksheet? w with
  | none => s.fail (.notFound (.worksheet w))
  | some _ => (s, .waits (.opening w params next))

def openConnection (s : Session) (w : WorksheetId) (params : ConnectionParams) : Step :=
  s.beginOpen w params .connection

/-- a new worksheet with its connection and its first tab -/
def openWorksheet (s : Session) (name : String) (params : ConnectionParams) : Step :=
  let (w, s) := s.createWorksheet name
  s.beginOpen w params .firstTab

def afterOpen (s : Session) (w : WorksheetId) (c : Connection) (next : AfterOpen) : Step :=
  let s := s.mapConnections (·.insert c)
  match next with
  | .connection => s.finish (.connection c)
  | .firstTab => s.beginTab w none (.worksheet w)

def opened (s : Session) (w : WorksheetId) (params : ConnectionParams) (next : AfterOpen) :
    Except ConsoleError ConnectionInfo → Step
  | .error e => s.fail e
  | .ok info =>
    let c := Connection.ofInfo info params.target params.db (.worksheet w)
    match s.store.connections.ofWorksheet? w with
    | some old => (s, .waits (.replacing w old.id c next))
    | none => s.afterOpen w c next

/-! ## connections of tabs -/

/-- a copy of `source` for a tab -/
def cloneConnection (s : Session) (source : Connection) (tab : TabId) : Step :=
  (s, .waits (.cloning source tab .connection))

def cloned (s : Session) (source : Connection) (tab : TabId) (next : AfterClone) :
    Except ConsoleError ConnectionInfo → Step
  | .error e => s.afterClone tab (.error e) next
  | .ok info =>
    let c := Connection.ofInfo info source.name source.db (.tab tab)
    match s.store.tabs.tab? tab with
    | some _ => (s.mapConnections (·.insert c)).afterClone tab (.ok c) next
    | none => (s, .waits (.discarding c.id tab next))

/-! ## any connection -/

def release (s : Session) (c : ConnectionId) : Step := (s, .waits (.releasing c))

/-- the server is asked for the current database of a connection -/
def refreshDatabase (s : Session) (c : ConnectionId) : Step := (s, .waits (.refreshing c))

/-- the database that the server has named, none unless it is a text -/
def databaseOf (set : ResultSet) : Option String := set.firstValue?.bind (·.string?)

def setDatabase (s : Session) (c : ConnectionId) (set : ResultSet) : Session :=
  s.mapConnections (·.setDb c (databaseOf set))

end QueryDesk.Session
