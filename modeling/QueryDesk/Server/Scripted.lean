import QueryDesk.Api.Connection
import QueryDesk.Text.Basic

/-!
# A server that follows a script

It opens connections one after the other, answers statements from a table of replies, and can hold
calls back.

* `receive`   a call arrives; it is answered now or waits at a gate;
* `reply`     the answer to a call that does not wait, or waits no longer;
* `letGo`     a release for a gate; one that finds nobody waiting is kept for the next call.

A gate that was made later takes the place of the earlier one for new calls; calls that wait already
stay where they are.
-/

namespace QueryDesk

/-- a place where calls wait -/
structure Gate where
  number : Nat
deriving DecidableEq

structure ScriptedServer where
  replies : Table String (Except ConsoleError ResultSet)
  /-- the gate of a statement that was made last -/
  gates : Table String Gate
  cloneGate : Option Gate
  /-- gates with a release that nobody has taken -/
  spare : List Gate
  gatesMade : Nat
  failClone : Bool
  failRelease : Bool
  opened : Nat
  /-- the calls that came, in their order -/
  calls : List Call

namespace ScriptedServer

def empty : ScriptedServer := ⟨Table.empty, Table.empty, none, [], 0, false, false, 0, []⟩

/-! ## the script -/

def script (v : ScriptedServer) (sql : String) (reply : Except ConsoleError ResultSet) :
    ScriptedServer :=
  { v with replies := v.replies.insert sql reply }

def makeGate (v : ScriptedServer) : Gate × ScriptedServer :=
  (⟨v.gatesMade + 1⟩, { v with gatesMade := v.gatesMade + 1 })

/-- statements with this text wait from now on -/
def hold (v : ScriptedServer) (sql : String) : ScriptedServer :=
  let (g, v) := v.makeGate
  { v with gates := v.gates.insert sql g }

/-- copies wait from now on -/
def holdClone (v : ScriptedServer) : ScriptedServer :=
  let (g, v) := v.makeGate
  { v with cloneGate := some g }

/-- the statements that were received -/
def statements (v : ScriptedServer) : List String :=
  v.calls.filterMap fun
    | .query _ request _ => some request.sql
    | _ => none

/-! ## calls -/

/-- the gate that a call has to pass -/
def gateOf (v : ScriptedServer) : Call → Option Gate
  | .clone _ => v.cloneGate
  | .query _ request _ => v.gates.get? request.sql
  | _ => none

/-- a call arrives; it has to wait at the gate that comes with the answer -/
def receive (v : ScriptedServer) (c : Call) : Option Gate × ScriptedServer :=
  let v := { v with calls := v.calls ++ [c] }
  match v.gateOf c with
  | none => (none, v)
  | some g => if g ∈ v.spare then (none, { v with spare := v.spare.erase g }) else (some g, v)

def spareRelease (v : ScriptedServer) (g : Gate) : ScriptedServer :=
  if g ∈ v.spare then v else { v with spare := g :: v.spare }

/-! ## answers -/

def newConnection (v : ScriptedServer) : ConnectionInfo × ScriptedServer :=
  let n := v.opened + 1
  (⟨⟨"conn-" ++ toString n⟩, .ofNat (100 + n), some (Binary64.zero false)⟩, { v with opened := n })

/-- what a statement without a scripted reply is answered with -/
def defaultReply (sql : String) : ResultSet :=
  let result :=
    if Text.startsWithWord "SELECT" (Text.trimLeft sql.toList) then
      [("fields", .array [.string "result"]),
        ("data", .array [.array [.string ("Mock result for: " ++ sql)]]), ("complete", .bool true)]
    else [("affected_rows", .nat 0), ("last_insert_id", .nat 0), ("warnings", .nat 0)]
  ResultSet.ofResults sql [.object result]

def reply (v : ScriptedServer) : (c : Call) → c.Reply × ScriptedServer
  | .connect _ => let (info, v) := v.newConnection; (.ok info, v)
  | .clone _ =>
    if v.failClone then (.error (.api 503 "clone refused"), v)
    else let (info, v) := v.newConnection; (.ok info, v)
  | .query _ request _ => ((v.replies.get? request.sql).getD (.ok (defaultReply request.sql)), v)
  | .release _ => (if v.failRelease then .error (.transport "connection reset") else .ok (), v)

end ScriptedServer

end QueryDesk
