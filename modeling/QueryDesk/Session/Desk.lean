import QueryDesk.Server.Scripted
import QueryDesk.Session.Resume

/-!
# Sessions at work

A `Desk` is a session, its server, and the operations that wait at the server's gates.

* `Desk.run`      an operation goes on until it waits or ends;
* `Desk.begin`    an operation is started;
* `Desk.letGo`    the operation that has waited longest at a gate goes on;
* `Desk.giveUp`   operations whose query was cancelled go on with that.
-/

namespace QueryDesk

/-- an operation that waits at a gate -/
structure Waiting where
  task : Nat
  await : Await
  gate : Gate

/-- an operation has ended -/
structure Ending where
  task : Nat
  result : Except ConsoleError Outcome

structure Desk where
  session : Session
  server : ScriptedServer
  /-- in the order of their arrival -/
  waiting : List Waiting
  tasks : Nat

namespace Desk

/-- a desk at which nothing has happened -/
def fresh (session : Session) : Desk := ⟨session, ScriptedServer.empty, [], 0⟩

def mapSession (d : Desk) (f : Session → Session) : Desk := { d with session := f d.session }

def mapServer (d : Desk) (f : ScriptedServer → ScriptedServer) : Desk :=
  { d with server := f d.server }

/-- a call is answered, and its operation goes on as far as it can -/
def run (d : Desk) (task : Nat) (a : Await) (server : ScriptedServer) (reply : a.call.Reply) :
    Desk × List Ending :=
  match _h : d.session.resume a reply with
  | (session, .ends result) => ({ d with session, server }, [⟨task, result⟩])
  | (session, .waits b) =>
    match server.receive b.call with
    | (some gate, server) =>
      ({ d with session, server, waiting := d.waiting ++ [⟨task, b, gate⟩] }, [])
    | (none, server) =>
      let (answer, server) := server.reply b.call
      run { d with session } task b server answer
termination_by a.callsLeft
decreasing_by
  have := Session.callsLeft_resume d.session a reply
  rw [_h] at this
  exact this

/-- an operation that waits for the server has its call answered -/
def proceed (d : Desk) (task : Nat) (a : Await) : Desk × List Ending :=
  let (reply, server) := d.server.reply a.call
  d.run task a server reply

/-- an operation is started -/
def begin (d : Desk) (operation : Session → Session.Step) : Desk × List Ending :=
  let task := d.tasks + 1
  let d := { d with tasks := task }
  match operation d.session with
  | (session, .ends result) => ({ d with session }, [⟨task, result⟩])
  | (session, .waits a) =>
    let d := { d with session }
    match d.server.receive a.call with
    | (some gate, server) => ({ d with server, waiting := d.waiting ++ [⟨task, a, gate⟩] }, [])
    | (none, server) => { d with server }.proceed task a

/-- the operation that has waited longest at a gate goes on -/
def letGo (d : Desk) (gate : Gate) : Desk × List Ending :=
  match d.waiting.find? (·.gate = gate) with
  | none => (d.mapServer (·.spareRelease gate), [])
  | some w => { d with waiting := d.waiting.eraseP (·.gate = gate) }.proceed w.task w.await

/-- the token by which the call of an operation was cancelled, if it was -/
def isGivenUp (d : Desk) (w : Waiting) : Bool :=
  match w.await.call.abort? with
  | some token => d.session.isCancelled token
  | none => false

/-- operations whose query was cancelled go on with that -/
def giveUp (d : Desk) : Desk × List Ending :=
  let stopped := d.waiting.filter d.isGivenUp
  let d := { d with waiting := d.waiting.filter fun w => !d.isGivenUp w }
  stopped.foldl (fun (d, ends) w =>
    let (d, more) := d.run w.task w.await d.server (.error .cancelled)
    (d, ends ++ more)) (d, [])

/-- a step of the desk, and what was given up through it -/
def settled (step : Desk × List Ending) : Desk × List Ending :=
  let (d, ends) := step
  let (d, more) := d.giveUp
  (d, ends ++ more)

end Desk

end QueryDesk
