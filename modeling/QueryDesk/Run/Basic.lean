import QueryDesk.CommandLine.Resolve
import QueryDesk.Http.Client
import QueryDesk.Session.Resume

/-!
# Runs

A run opens a worksheet, carries out one command in its first tab, and closes the worksheet again,
whatever came of the command.  Beside a query a stopper may be at work: it sleeps for the delay of
the plan and then stops the query.  It is there before the query is sent, and it is dropped after the
query has come back, so it may awake in time, too early or too late.

* `Plan.make`   command line, environment and settings file, put together before the server is
  called;
* `Run.begin`   a run up to its first call of the server;
* `Run.step`    a run over an event: an exchange has ended, the run goes on by itself, or the stopper
  awakes;
* `Run.after`   a run over several events.

A query that is given up because it was stopped goes on at once, and no answer to it counts.
-/

namespace QueryDesk

/-! ## what a run is to do -/

structure Plan where
  client : Http.Client
  params : ConnectionParams
  query : QuerySettings
  command : Command
  /-- how long a query may take before it is killed -/
  delay : Option Delay
deriving DecidableEq

namespace Plan

/-- of two faults the one found first counts: in the file, the connection, the delay, the root -/
def make (env : Environment) (line : CommandLine) (file : StoredFile) :
    Except ConsoleError Plan := do
  let settings ← Settings.load (line.settingsPath env) file
  let settings := line.override (settings.fillFrom env)
  let params ← line.connect settings
  let delay ← line.killDelay
  let client ← Http.Client.ofSettings settings.api
  return ⟨client, params, settings.query, line.command, delay⟩

end Plan

/-! ## where a run stands -/

/-- why a run fails -/
inductive Failure where
  | error (e : ConsoleError)
  /-- the worksheet could not be opened -/
  | connect (params : ConnectionParams) (e : ConsoleError)
  | superseded

def Failure.text (names : Names) : Failure → String
  | error e => e.text names
  | connect params e => "Failed to connect to " ++ params.display ++ ": " ++ e.text names
  | superseded => "Query was superseded by another request"

abbrev RunResult := Except Failure ResultSet

/-- what stops a query -/
inductive Stopper where
  /-- there is none, or it is done -/
  | idle
  | asleep
  | stopping (a : Await)

/-- where a run stands -/
inductive Phase where
  | opening (a : Await)
  /-- the worksheet is there, and the command is not yet begun -/
  | ready (w : WorksheetId) (tab : TabId) (stopper : Stopper)
  | working (w : WorksheetId) (tab : TabId) (a : Await) (stopper : Stopper)
  /-- the command has ended, and the worksheet is not yet being closed -/
  | returned (w : WorksheetId) (tab : TabId) (outcome : Except ConsoleError Outcome)
    (stopper : Stopper)
  | closing (a : Await) (result : RunResult)
  | finished (result : RunResult)

namespace Phase

/-- the stopper that is at work, and its tab -/
def stopper? : Phase → Option (TabId × Stopper)
  | ready _ tab stopper => some (tab, stopper)
  | working _ tab _ stopper => some (tab, stopper)
  | returned _ tab _ stopper => some (tab, stopper)
  | _ => none

def withStopper (stopper : Stopper) : Phase → Phase
  | ready w tab _ => ready w tab stopper
  | working w tab a _ => working w tab a stopper
  | returned w tab outcome _ => returned w tab outcome stopper
  | p => p

/-- the call that the run waits for -/
def await? : Phase → Option Await
  | opening a => some a
  | working _ _ a _ => some a
  | closing a _ => some a
  | _ => none

end Phase

inductive Event where
  /-- the call that the run waits for has come to this -/
  | exchange (x : Http.Exchange)
  /-- the run goes on by itself -/
  | proceed
  /-- the call of the stopper has come to this -/
  | stopExchange (x : Http.Exchange)
  /-- the delay is over -/
  | awake

structure Run where
  plan : Plan
  session : Session
  phase : Phase
  /-- the calls made so far, in their order -/
  calls : List Call

namespace Run

/-! ## one phase after the other -/

/-- the run waits for a call, in a given phase -/
def waits (r : Run) (s : Session) (a : Await) (phase : Phase) : Run :=
  { r with session := s, phase, calls := r.calls ++ [a.call] }

def ended (r : Run) (s : Session) (result : RunResult) : Run :=
  { r with session := s, phase := .finished result }

/-- an error on closing does not count -/
def closed (r : Run) (result : RunResult) : Session.Step → Run
  | (s, .waits a) => r.waits s a (.closing a result)
  | (s, .ends _) => r.ended s result

/-- the result of a command -/
def resultOf : Except ConsoleError Outcome → RunResult
  | .error e => .error (.error e)
  | .ok (.query (.completed set)) => .ok set
  | .ok (.query (.killed set)) => .ok set
  | .ok (.query (.failed e)) => .error (.error e)
  | .ok (.preview set) => .ok set
  | .ok _ => .error .superseded

def worked (r : Run) (w : WorksheetId) (tab : TabId) (stopper : Stopper) : Session.Step → Run
  | (s, .waits a) => r.waits s a (.working w tab a stopper)
  | (s, .ends outcome) => { r with session := s, phase := .returned w tab outcome stopper }

/-- the command of a plan, in a tab -/
def work (s : Session) (tab : TabId) : Command → Session.Step
  | .query sql _ => s.query tab sql
  | .preview target details => s.preview tab target (if details then .details else .data)

/-- only queries are stopped -/
def stopperOf (plan : Plan) : Stopper :=
  match plan.command with
  | .query .. => if plan.delay.isSome then .asleep else .idle
  | .preview .. => .idle

/-- opening a worksheet ends with the worksheet or an error -/
def opened (r : Run) : Session.Step → Run
  | (s, .waits a) => r.waits s a (.opening a)
  | (s, .ends (.ok (.worksheet w tab))) =>
    { r with session := s, phase := .ready w tab (stopperOf r.plan) }
  | (s, .ends (.error e)) => r.ended s (.error (.connect r.plan.params e))
  | (s, .ends (.ok _)) => r.ended s (.error .superseded)

/-- the name of the worksheet that a run works in -/
def worksheetName : String := "WORKSHEET"

/-- the log of a run is not shown, so its clock may stand still -/
def begin (plan : Plan) : Run :=
  let s := Session.empty plan.query.rowLimit plan.query.logCapacity.toNat 0
  opened ⟨plan, s, .finished (.error .superseded), []⟩ (s.openWorksheet worksheetName plan.params)

/-! ## stopping -/

/-- a query that was stopped is given up -/
def giveUp (r : Run) : Run :=
  match r.phase with
  | .working w tab a stopper =>
    match a.call.abort? with
    | some token =>
      if r.session.isCancelled token then
        r.worked w tab stopper (r.session.resume a (.error .cancelled))
      else r
    | none => r
  | _ => r

/-- the stopper goes on; a stop is one call -/
def stopped (r : Run) : Session.Step → Run
  | (s, .waits b) => r.waits s b (r.phase.withStopper (.stopping b))
  | (s, .ends _) => giveUp { r with session := s, phase := r.phase.withStopper .idle }

/-! ## events -/

def step (r : Run) : Event → Run
  | .exchange x =>
    match r.phase with
    | .opening a => r.opened (r.session.resume a (a.call.answer x))
    | .working w tab a stopper => r.worked w tab stopper (r.session.resume a (a.call.answer x))
    | .closing a result => r.closed result (r.session.resume a (a.call.answer x))
    | _ => r
  | .proceed =>
    match r.phase with
    | .ready w tab stopper => r.worked w tab stopper (work r.session tab r.plan.command)
    | .returned w _ outcome _ => r.closed (resultOf outcome) (r.session.closeWorksheet w)
    | _ => r
  | .stopExchange x =>
    match r.phase.stopper? with
    | some (_, .stopping b) => r.stopped (r.session.resume b (b.call.answer x))
    | _ => r
  | .awake =>
    match r.phase.stopper? with
    | some (tab, .asleep) => r.stopped (r.session.stop tab)
    | _ => r

def after (r : Run) (events : List Event) : Run := events.foldl step r

/-- the call that the run waits for -/
def call? (r : Run) : Option Call := r.phase.await?.map (·.call)

/-- what a run came to, once it is over -/
def result? (r : Run) : Option RunResult :=
  match r.phase with
  | .finished result => some result
  | _ => none

end Run

end QueryDesk
