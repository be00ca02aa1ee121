import QueryDesk.Run.Report

/-!
# Errands

What becomes of a command line: it is refused before the server is called, or a run carries it out.

* `Errand.start`     from command line, environment and settings file;
* `Errand.after`     an errand over the events of its run;
* `Errand.calls`     the calls made so far;
* `Errand.report?`   what is left behind, once it is over.
-/

namespace QueryDesk

inductive Errand where
  | refused (e : ConsoleError)
  | running (r : Run)

namespace Errand

def start (env : Environment) (line : CommandLine) (file : StoredFile) : Errand :=
  match Plan.make env line file with
  | .error e => .refused e
  | .ok plan => .running (.begin plan)

/-- what was refused stays so -/
def step : Errand → Event → Errand
  | refused e, _ => .refused e
  | running r, x => .running (r.step x)

def after (w : Errand) (events : List Event) : Errand := events.foldl step w

def calls : Errand → List Call
  | refused _ => []
  | running r => r.calls

/-- the request of the call that the errand waits for -/
def request? : Errand → Option (Except ConsoleError Http.Request)
  | refused _ => none
  | running r => r.call?.map r.plan.client.request

def report? (names : Names) : Errand → Option Report
  | refused e => some (.ofFailure e.message)
  | running r => r.result?.map (r.report names)

end Errand

end QueryDesk
