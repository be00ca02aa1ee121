import QueryDesk.Api.Connection
import QueryDesk.Time.Instant

/-!
# What a tab remembers

A tab has three places for results, each owned by the request that was sent last:

* `Slot`        a place for a result, `begin` and `owns` tell whose it is;
* `QuerySlot`   the place of the user's query, with a handle to give it up and its `RunState`;
* `TabMemory`   the three places of a tab, and whether its connection is busy;
* `Memories`    the memories of all tabs.
-/

namespace QueryDesk

/-! ## slots -/

/-- requests are numbered in the order in which they are sent -/
structure RequestId where
  number : Nat
deriving DecidableEq

/-- a place for a result -/
structure Slot where
  /-- when the request was sent -/
  sent : Option Instant
  /-- seconds from sending to the answer -/
  duration : Binary64
  loading : Bool
  /-- the last result that came for an owner -/
  data : Option ResultSet
  /-- the request that owns the slot -/
  owner : Option RequestId

namespace Slot

def empty : Slot := ⟨none, Binary64.zero false, false, none, none⟩

/-- nothing was ever requested into the slot -/
def isEmpty (s : Slot) : Bool :=
  s.sent.isNone && s.duration.isZero && !s.loading && s.data.isNone && s.owner.isNone

/-- a new request takes the slot over; the data stays -/
def begin (s : Slot) (request : RequestId) (now : Instant) : Slot :=
  { s with
    sent := some now
    duration := Binary64.zero false
    loading := true
    owner := some request }

def ownedBy (s : Slot) (request : RequestId) : Bool := s.owner = some request

/-- the answer of a request has come -/
def settle (s : Slot) (data : Option ResultSet) (duration : Binary64) : Slot :=
  { s with data := data.or s.data, duration, loading := false }

end Slot

/-! ## the user's query -/

inductive RunState where
  /-- no query was sent yet -/
  | idle
  | running
  /-- the server has agreed to stop the query that is running -/
  | killRequested
  | settled
deriving DecidableEq

structure QuerySlot where
  result : Slot
  abort : Option CancelToken
  state : RunState

namespace QuerySlot

def empty : QuerySlot := ⟨Slot.empty, none, .idle⟩

def isEmpty (q : QuerySlot) : Bool := q.result.isEmpty && q.abort.isNone && q.state = .idle

end QuerySlot

/-! ## tabs -/

structure TabMemory where
  busy : Bool
  data : Slot
  details : Slot
  query : QuerySlot

namespace TabMemory

def empty : TabMemory := ⟨false, Slot.empty, Slot.empty, QuerySlot.empty⟩

/-- the running query is to be stopped -/
def isKilled (m : TabMemory) : Bool := m.query.state = .killRequested

def clearPreviews (m : TabMemory) : TabMemory :=
  { m with data := Slot.empty, details := Slot.empty }

end TabMemory

/-- the memories of tabs; all but `insert` leave a tab without memory as it is -/
abbrev Memories := Table TabId TabMemory

namespace Memories

/-- a fresh memory for a tab -/
def insertFresh (ms : Memories) (tab : TabId) : Memories := ms.insert tab TabMemory.empty

/-- the memory of a tab, an empty one if it has none -/
def find (ms : Memories) (tab : TabId) : TabMemory := (ms.get? tab).getD TabMemory.empty

def reset (ms : Memories) (tab : TabId) : Memories := ms.modify tab fun _ => TabMemory.empty

end Memories

end QueryDesk
