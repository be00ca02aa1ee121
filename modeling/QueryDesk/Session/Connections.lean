import QueryDesk.Api.Connection
import QueryDesk.Session.Tabs

/-!
# Connections of a session

* `Binding`       the worksheet or tab that a connection serves;
* `Connection`    a connection that the server has opened;
* `Connections`   all of them: no two with one name, no two with one binding;
* `insert`        a connection, in the place of those with its name or its binding.
-/

namespace QueryDesk

inductive Binding where
  /-- shared by a worksheet: its queries are stopped from here, its tabs' connections cloned -/
  | worksheet (id : WorksheetId)
  | tab (id : TabId)
deriving DecidableEq

structure Connection where
  id : ConnectionId
  /-- the target it was opened on -/
  name : String
  thread : UInt64
  db : Option String
  binding : Binding
deriving DecidableEq

/-- the connection that the server has told of -/
def Connection.ofInfo (info : ConnectionInfo) (name : String) (db : Option String) (b : Binding) :
    Connection :=
  ⟨info.id, name, info.thread, db, b⟩

/-- in the order in which they were made -/
structure Connections where
  records : List Connection
deriving DecidableEq

namespace Connections

def empty : Connections := ⟨[]⟩

def find? (cs : Connections) (id : ConnectionId) : Option Connection :=
  cs.records.find? (·.id = id)

def bound? (cs : Connections) (b : Binding) : Option Connection := cs.records.find? (·.binding = b)

def ofTab? (cs : Connections) (tab : TabId) : Option Connection := cs.bound? (.tab tab)

def ofWorksheet? (cs : Connections) (w : WorksheetId) : Option Connection :=
  cs.bound? (.worksheet w)

def insert (cs : Connections) (c : Connection) : Connections :=
  ⟨cs.records.filter (fun d => d.binding ≠ c.binding && d.id ≠ c.id) ++ [c]⟩

def setDb (cs : Connections) (id : ConnectionId) (db : Option String) : Connections :=
  ⟨cs.records.map fun c => if c.id = id then { c with db } else c⟩

def remove (cs : Connections) (id : ConnectionId) : Connections :=
  ⟨cs.records.filter (·.id ≠ id)⟩

end Connections

end QueryDesk
