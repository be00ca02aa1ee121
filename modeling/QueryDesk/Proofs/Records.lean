import QueryDesk.Proofs.Moves

/-!
# What a stretch makes of the records and tells the user

Connections come on record, go, and are told their database; of all this the user hears nothing.
The one notice is that of a stop that was refused.

* `Ending.notice?`     the notice that comes with the end of an operation;
* `Await.asks?`        the connection whose database is asked for, `Await.names?` with the answer;
* `Discreet s st`      a stretch that leaves the records and the notices as they were, and asks for
  no database;
* `Amends s a reply s'`      what a reply makes of the records, first of all;
* `Handles s a reply st`     what a stretch after a reply can be.

**`Session.discreet_begin`**, **`Session.handles`**: so it is for every stretch.
-/

namespace QueryDesk

/-- the notice that comes with the result of an operation -/
def notice? : Except ConsoleError Outcome → Option Notice
  | .ok (.stop (.refused lines)) => some ⟨.error, lines⟩
  | _ => none

def Progress.notice? : Progress → Option Notice
  | .waits _ => none
  | .ends r => QueryDesk.notice? r

/-- the connection whose database the operation waits to hear of -/
def Await.asks? : Await → Option ConnectionId
  | switching q _ _ => some q.connection.id
  | refreshing c => some c
  | _ => none

def Progress.asks? : Progress → Option ConnectionId
  | .waits a => a.asks?
  | .ends _ => none

def Ending.notice? (x : Ending) : Option Notice := QueryDesk.notice? x.result

/-- a stretch that puts nothing on record, changes no record, tells the user nothing, and asks for
no database -/
structure Discreet (s : Session) (st : Session.Step) : Prop where
  connections : st.1.store.connections = s.store.connections
  notices : st.1.notices = s.notices
  silent : st.2.notice? = none
  asks : st.2.asks? = none

namespace Discreet
variable {s s' : Session} {st : Session.Step}

theorem of_same (h : Discreet s' st) (hc : s'.store.connections = s.store.connections)
    (hn : s'.notices = s.notices) : Discreet s st :=
  ⟨h.connections.trans hc, h.notices.trans hn, h.silent, h.asks⟩

/-! ## work on worksheets and tabs -/

theorem afterClone (s : Session) (tab : TabId) (r : Except ConsoleError Connection)
    (next : AfterClone) : Discreet s (s.afterClone tab r next) := by
  cases next with
  | connection => cases r <;> exact ⟨rfl, rfl, rfl, rfl⟩
  | tab => exact ⟨rfl, rfl, rfl, rfl⟩
  | worksheet w => exact ⟨rfl, rfl, rfl, rfl⟩

theorem beginTab (s : Session) (w : WorksheetId) (name : Option String) (next : AfterClone) :
    Discreet s (s.beginTab w name next) := by
  simp only [Session.beginTab]
  split
  · exact ⟨rfl, rfl, rfl, rfl⟩
  · split
    · exact ⟨rfl, rfl, rfl, rfl⟩
    · exact of_same (afterClone _ _ _ next) rfl rfl

theorem closeTabs (w : WorksheetId) (tabs : List TabId) (s : Session) :
    Discreet s (s.closeTabs w tabs) := by
  induction tabs generalizing s with
  | nil =>
    simp only [Session.closeTabs, Session.closeEmpty]
    split
    · exact ⟨rfl, rfl, rfl, rfl⟩
    · exact ⟨rfl, rfl, rfl, rfl⟩
  | cons tab rest ih =>
    simp only [Session.closeTabs]
    split
    · exact ⟨rfl, rfl, rfl, rfl⟩
    · split
      · exact ⟨rfl, rfl, rfl, rfl⟩
      · exact of_same (ih (s.dropTab tab)) rfl rfl

theorem deleteTab (s : Session) (tab : TabId) : Discreet s (s.deleteTab tab) := by
  simp only [Session.deleteTab]
  split
  · exact ⟨rfl, rfl, rfl, rfl⟩
  · split
    · exact ⟨rfl, rfl, rfl, rfl⟩
    · exact ⟨rfl, rfl, rfl, rfl⟩

theorem beginOpen (s : Session) (w : WorksheetId) (params : ConnectionParams) (next : AfterOpen) :
    Discreet s (s.beginOpen w params next) := by
  simp only [Session.beginOpen]
  split
  · exact ⟨rfl, rfl, rfl, rfl⟩
  · exact ⟨rfl, rfl, rfl, rfl⟩

/-- a worksheet has its connection, which is on record from here on -/
theorem afterOpen (s : Session) (w : WorksheetId) (c : Connection) (next : AfterOpen) :
    Discreet (s.mapConnections (·.insert c)) (s.afterOpen w c next) := by
  cases next with
  | connection => exact ⟨rfl, rfl, rfl, rfl⟩
  | firstTab => exact beginTab _ w none _

/-! ## statements -/

theorem preview (s : Session) (tab : TabId) (target : String) (mode : Preview) :
    Discreet s (s.preview tab target mode) := by
  simp only [Session.preview]
  split
  · exact ⟨rfl, rfl, rfl, rfl⟩
  · exact ⟨rfl, rfl, rfl, rfl⟩

theorem query (s : Session) (tab : TabId) (sql : String) : Discreet s (s.query tab sql) := by
  simp only [Session.query]
  split
  · exact ⟨rfl, rfl, rfl, rfl⟩
  · exact ⟨rfl, rfl, rfl, rfl⟩

theorem stop (s : Session) (tab : TabId) : Discreet s (s.stop tab) := by
  simp only [Session.stop]
  split
  · exact ⟨rfl, rfl, rfl, rfl⟩
  · split
    · exact ⟨rfl, rfl, rfl, rfl⟩
    · split
      · exact ⟨rfl, rfl, rfl, rfl⟩
      · exact ⟨rfl, rfl, rfl, rfl⟩

theorem completeQuery (s : Session) (q : Sent) (duration : Binary64) (set : ResultSet) :
    Discreet s (s.completeQuery q duration set) := ⟨rfl, rfl, rfl, rfl⟩

theorem previewed (s : Session) (q : Sent) (mode : Preview) (title : String)
    (reply : Except ConsoleError ResultSet) : Discreet s (s.previewed q mode title reply) := by
  cases reply <;> exact ⟨rfl, rfl, rfl, rfl⟩

theorem acknowledged (s : Session) (tab : TabId) (target : Option RequestId) :
    Discreet s ((s.markKilled tab target).finish (.stop .killed)) := by
  have hmark : (s.markKilled tab target).store.connections = s.store.connections ∧
      (s.markKilled tab target).notices = s.notices := by
    unfold Session.markKilled
    split
    · exact ⟨rfl, rfl⟩
    · split
      · split <;> exact ⟨rfl, rfl⟩
      · exact ⟨rfl, rfl⟩
  exact ⟨hmark.1, hmark.2, rfl, rfl⟩

end Discreet

/-- **An operation begins discreetly**, unless it is asked for a database. -/
theorem Session.discreet_begin (s : Session) (o : Operation) :
    Discreet s (o.begin s) ∨ ∃ c, o = .refreshDatabase c := by
  refine (em (∃ c, o = .refreshDatabase c)).symm.imp_left fun hno => ?_
  cases o with
  | openWorksheet name params => exact .of_same (.beginOpen _ _ params _) rfl rfl
  | openConnection w params => exact .beginOpen s w params _
  | closeWorksheet w => exact .closeTabs w _ s
  | addTab w name => exact .beginTab s w name _
  | deleteTab tab => exact .deleteTab s tab
  | preview tab target mode => exact .preview s tab target mode
  | query tab sql => exact .query s tab sql
  | stop tab => exact .stop s tab
  | cloneConnection source tab => exact ⟨rfl, rfl, rfl, rfl⟩
  | release c => exact ⟨rfl, rfl, rfl, rfl⟩
  | refreshDatabase c => exact absurd ⟨c, rfl⟩ hno

/-! ## replies -/

/-- the connection whose database the reply names, and the answer that names it -/
def Await.names? : (a : Await) → a.call.Reply → Option (ConnectionId × ResultSet)
  | switching q _ _, .ok answer => some (q.connection.id, answer)
  | refreshing c, .ok answer => some (c, answer)
  | _, _ => none

/-- what a reply makes of the records, first of all -/
inductive Amends (s : Session) : (a : Await) → a.call.Reply → Session → Prop where
  | same {a reply} : Amends s a reply s
  | forgets {a reply} (id : ConnectionId) : Amends s a reply (s.forget id)
  /-- a connection has come -/
  | inserts {a reply} (c : Connection) (hc : a.gains? reply = some (c.binding, c.id)) :
    Amends s a reply (s.mapConnections (·.insert c))
  /-- one that had come takes the place of another -/
  | replaces {w old c next reply} : Amends s (.replacing w old c next) reply
      ((s.forget old).mapConnections (·.insert c))
  | names {a reply} (id : ConnectionId) (answer : ResultSet)
    (hn : a.names? reply = some (id, answer)) : Amends s a reply (s.setDatabase id answer)

/-- what a stretch after a reply can be: it goes on discreetly with the amended records, asks for
the new database, or ends with the refusal of a stop -/
inductive Handles (s : Session) : (a : Await) → a.call.Reply → Session.Step → Prop where
  | goes {a reply s₁ st} (hr : Amends s a reply s₁) (hd : Discreet s₁ st) : Handles s a reply st
  | asks {q} {set : ResultSet} (hs : s.standing q = .current)
    (hq : Sql.isDatabaseSwitch q.statement.sql = true) :
    Handles s (.querying q) (.ok set) (s, .waits (.switching q set (q.time.elapsed s.now)))
  | refuses {tab via thread target} {set : ResultSet} {row} (hrow : set.firstError? = some row) :
    Handles s (.killing tab via thread target) (.ok set)
      ((s.notify ⟨.error, Session.refusal row⟩).finish (.stop (.refused (Session.refusal row))))

/-- **What follows a reply.** -/
theorem Session.handles (s : Session) (a : Await) (reply : a.call.Reply) :
    Handles s a reply (s.resume a reply) := by
  cases a with
  | opening w params next =>
    cases reply with
    | error e => exact .goes .same ⟨rfl, rfl, rfl, rfl⟩
    | ok info =>
      simp only [resume, opened]
      split
      · exact .goes .same ⟨rfl, rfl, rfl, rfl⟩
      · have hnew : Amends s (.opening w params next) (.ok info) (s.mapConnections
            (·.insert (.ofInfo info params.target params.db (.worksheet w)))) := .inserts _ rfl
        exact .goes hnew (.afterOpen s w _ next)
  | replacing w old c next => exact .goes .replaces (.afterOpen (s.forget old) w c next)
  | cloning source tab next =>
    cases reply with
    | error e => exact .goes .same (.afterClone s tab _ next)
    | ok info =>
      simp only [resume, cloned]
      split
      · exact .goes (.inserts (.ofInfo info source.name source.db (.tab tab)) rfl)
          (.afterClone _ tab _ next)
      · exact .goes .same ⟨rfl, rfl, rfl, rfl⟩
  | discarding clone tab next => exact .goes (.forgets clone) (.afterClone _ tab _ next)
  | deleting c next =>
    cases next with
    | done => exact .goes (.forgets c) ⟨rfl, rfl, rfl, rfl⟩
    | close w rest => exact .goes (.forgets c) (.closeTabs w rest _)
  | closing w c => exact .goes (.forgets c) ⟨rfl, rfl, rfl, rfl⟩
  | releasing c =>
    refine .goes (.forgets c) ⟨rfl, rfl, ?_, rfl⟩
    cases reply <;> rfl
  | refreshing c =>
    cases reply with
    | error e => exact .goes .same ⟨rfl, rfl, rfl, rfl⟩
    | ok answer => exact .goes (.names c answer rfl) ⟨rfl, rfl, rfl, rfl⟩
  | previewing q mode title => exact .goes .same (.previewed s q mode title reply)
  | querying q =>
    simp only [resume, queried]
    split
    · exact .goes .same ⟨rfl, rfl, rfl, rfl⟩
    · exact .goes .same ⟨rfl, rfl, rfl, rfl⟩
    · exact .goes .same ⟨rfl, rfl, rfl, rfl⟩
    · next set hs =>
      split
      · next hq => exact .asks hs hq
      · exact .goes .same (.completeQuery s q _ set)
  | switching q set duration =>
    cases reply with
    | error e => exact .goes .same (.completeQuery s q duration set)
    | ok answer => exact .goes (.names q.connection.id answer rfl) (.completeQuery _ q duration set)
  | killing tab via thread target =>
    cases reply with
    | error e => exact .goes .same ⟨rfl, rfl, rfl, rfl⟩
    | ok set =>
      simp only [resume, killed]
      split
      · next row hrow => exact .refuses hrow
      · exact .goes .same (.acknowledged s tab target)

end QueryDesk
