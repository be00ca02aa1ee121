import QueryDesk.Api.Connection
import QueryDesk.Session.State
import QueryDesk.Sql.Statement

/-!
# Operations that wait for the server

An operation runs up to a call of the server, and on from its reply.  `Await` says where an
operation stands while its call is out: one constructor for each call that an operation makes,
holding all that the operation still needs.

* `Await.call`        the call that is out;
* `Await.callsLeft`   how many calls the operation can make from here on, this one included;
* `Outcome`           what an operation ends with;
* `Progress`          it waits, or it has ended.
-/

namespace QueryDesk

/-! ## outcomes -/

/-- how a query of the user ended -/
inductive QueryOutcome where
  | completed (set : ResultSet)
  | killed (set : ResultSet)
  | failed (e : ConsoleError)
  /-- the slot had gone to another request, or was gone -/
  | superseded

/-- how an attempt to stop a query ended -/
inductive StopOutcome where
  | killed
  /-- the server would not; the lines of the notice -/
  | refused (lines : List String)
  | unreachable (e : ConsoleError)

inductive Outcome where
  | done
  | worksheet (w : WorksheetId) (firstTab : TabId)
  | tab (tab : TabId)
  | connection (c : Connection)
  | database (name : Option String)
  | preview (set : ResultSet)
  | query (q : QueryOutcome)
  | stop (s : StopOutcome)

/-! ## where an operation stands -/

/-- what follows once a worksheet has its connection -/
inductive AfterOpen where
  | connection
  /-- its first tab -/
  | firstTab

/-- what follows once a tab has its connection, or could not get one -/
inductive AfterClone where
  | connection
  | tab
  /-- it was the first tab of a new worksheet -/
  | worksheet (w : WorksheetId)

/-- what follows once a tab is gone -/
inductive AfterDelete where
  | done
  /-- the other tabs of a worksheet that is being closed -/
  | close (w : WorksheetId) (rest : List TabId)

/-- a query that was sent for a tab -/
structure Sent where
  tab : TabId
  /-- the connection of the tab when it was sent -/
  connection : Connection
  request : RequestId
  time : Instant
  statement : QueryRequest

/-- the handle by which a query of the user can be given up -/
def Sent.token (q : Sent) : CancelToken := ⟨q.request.number⟩

inductive Await where
  | opening (w : WorksheetId) (params : ConnectionParams) (next : AfterOpen)
  /-- the connection that `c` replaces is released -/
  | replacing (w : WorksheetId) (old : ConnectionId) (c : Connection) (next : AfterOpen)
  | cloning (source : Connection) (tab : TabId) (next : AfterClone)
  /-- the tab is gone, and its new connection is released -/
  | discarding (clone : ConnectionId) (tab : TabId) (next : AfterClone)
  | deleting (c : ConnectionId) (next : AfterDelete)
  | closing (w : WorksheetId) (c : ConnectionId)
  | releasing (c : ConnectionId)
  | refreshing (c : ConnectionId)
  | previewing (q : Sent) (mode : Preview) (title : String)
  | querying (q : Sent)
  /-- the query has switched the database and come back; the new database is asked for -/
  | switching (q : Sent) (set : ResultSet) (duration : Binary64)
  /-- `target` is the request that was running when the stop was sent -/
  | killing (tab : TabId) (via : ConnectionId) (thread : UInt64) (target : Option RequestId)

namespace Await

def askDatabase (c : ConnectionId) : Call := .query c ⟨Sql.currentDatabase, none⟩ none

def call : Await → Call
  | opening _ params _ => .connect params
  | replacing _ old _ _ => .release old
  | cloning source _ _ => .clone source.id
  | discarding clone _ _ => .release clone
  | deleting c _ => .release c
  | closing _ c => .release c
  | releasing c => .release c
  | refreshing c => askDatabase c
  | previewing q _ _ => .query q.connection.id q.statement none
  | querying q => .query q.connection.id q.statement (some q.token)
  | switching q _ _ => askDatabase q.connection.id
  | killing _ via thread _ => .query via ⟨Sql.kill thread, none⟩ none

def callsLeft : Await → Nat
  | opening .. => 4
  | replacing .. => 3
  | cloning .. => 2
  | deleting _ (.close _ rest) => rest.length + 2
  | querying _ => 2
  | _ => 1

end Await

inductive Progress where
  | waits (a : Await)
  | ends (r : Except ConsoleError Outcome)

end QueryDesk
