import QueryDesk.Proofs.Outcomes
import QueryDesk.Proofs.RunPhases

/-!
# The command of a run

What a run works at is its command, and what its command ends with is what the session makes of the
answer to the statement of the command.

* `Command.call`          the call by which a command is carried out, on a connection;
* `Command.Carries`       an operation that waits is carrying out the command;
* `Command.Ends`          the command can end so: its tab has no connection, or its statement was
  answered;
* `Run.Obeys`             a run that works, or whose command has ended, does so by its command.

**`Run.work_makes`**: a command makes its call, on the connection of the tab.  **`Obeys.after`**: a
run obeys its command to the end, so its outcome is that of the command (`ends_of_mem_outcomes`).
-/

namespace QueryDesk

/-! ## commands -/

namespace Command

/-- the call by which a command is carried out, on a connection -/
def call (c : Command) (id : ConnectionId) (rowLimit : UInt32) (token : CancelToken) : Call :=
  match c with
  | .query sql _ => .query id ⟨sql, some rowLimit⟩ (some token)
  | .preview target details =>
    let mode : Preview := if details then .details else .data
    .query id ⟨mode.sql (Sql.Identifier.escapeText target), some rowLimit⟩ none

/-- an operation carries out the command: its statement is out, or a query of the user has come back
and the new database is asked for -/
inductive Carries : Command → Await → Prop where
  | query {q sql killAfter rowLimit} (hq : q.statement = ⟨sql, some rowLimit⟩) :
    Carries (.query sql killAfter) (.querying q)
  | switch {q sql killAfter rowLimit set duration} (hq : q.statement = ⟨sql, some rowLimit⟩) :
    Carries (.query sql killAfter) (.switching q set duration)
  | preview {q target details rowLimit mode title}
    (hmode : mode = if details then Preview.details else .data)
    (hq : q.statement = ⟨mode.sql (Sql.Identifier.escapeText target), some rowLimit⟩) :
    Carries (.preview target details) (.previewing q mode title)

/-- what a command can end with -/
inductive Ends (c : Command) : Except ConsoleError Outcome → Prop where
  | absent {s : Session} {tab e} (h : s.connectionOf tab = .error e) : Ends c (.error e)
  | heard {s : Session} {a reply o} (h : c.Carries a) (ho : (s.resume a reply).2 = .ends o) :
    Ends c o

/-- a stretch of an operation that goes on with the command or ends it -/
def Meets (c : Command) : Progress → Prop
  | .waits a => c.Carries a
  | .ends o => c.Ends o

variable {c : Command}

theorem Carries.resume {s : Session} {a : Await} (h : c.Carries a) (reply : a.call.Reply) :
    c.Meets (s.resume a reply).2 := by
  cases hp : (s.resume a reply).2 with
  | ends o => exact .heard h hp
  | waits b =>
    cases h with
    | @query q sql killAfter rowLimit hq =>
      change (s.queried q reply).2 = _ at hp
      rcases s.queried_cases q reply with ⟨set, duration, hr⟩ | ⟨s', outcome, hr, -⟩
      · rw [hr] at hp
        cases hp
        exact .switch hq
      · rw [hr] at hp
        cases hp
    | switch hq => cases reply <;> cases hp
    | preview hmode hq => cases reply <;> cases hp

theorem Ends.of_query {sql killAfter} {x : Outcome} (h : (query sql killAfter).Ends (.ok x)) :
    ∃ q, x = .query q := by
  cases h with
  | @heard s a reply o h ho =>
    cases h with
    | @query q sql killAfter rowLimit hq =>
      change (s.queried q reply).2 = _ at ho
      rcases s.queried_cases q reply with ⟨set, duration, hr⟩ | ⟨s', outcome, hr, -⟩
      · rw [hr] at ho
        cases ho
      · rw [hr] at ho
        cases ho
        exact ⟨outcome, rfl⟩
    | switch hq =>
      cases reply <;> cases ho <;> exact ⟨_, rfl⟩

theorem Ends.of_preview {target details} {x : Outcome}
    (h : (preview target details).Ends (.ok x)) : ∃ set, x = .preview set := by
  cases h with
  | @heard s a reply o h ho =>
    cases h with
    | preview hmode hq =>
      cases reply with
      | error e => cases ho
      | ok set =>
        cases ho
        exact ⟨set, rfl⟩

end Command

namespace Run

/-- **A command makes its call**, on the connection of the tab, or fails for want of one. -/
theorem work_makes (s : Session) (tab : TabId) (c : Command) :
    (∃ e, s.connectionOf tab = .error e ∧ (work s tab c).2 = .ends (.error e)) ∨
      ∃ d a, s.connectionOf tab = .ok d ∧ (work s tab c).2 = .waits a ∧ c.Carries a ∧
        a.call = c.call d.id s.rowLimit ⟨s.requestsSent + 1⟩ := by
  cases hd : s.connectionOf tab with
  | error e =>
    refine .inl ⟨e, rfl, ?_⟩
    cases c with
    | query sql killAfter => simp only [work, Session.query, hd]; rfl
    | preview target details => simp only [work, Session.preview, hd]; rfl
  | ok d =>
    refine .inr ?_
    cases c with
    | query sql killAfter =>
      refine ⟨d, .querying (s.sent tab d sql).1, rfl, ?_, .query rfl, rfl⟩
      simp only [work, Session.query, hd]
    | preview target details =>
      let mode : Preview := if details then .details else .data
      let escaped := Sql.Identifier.escapeText target
      refine ⟨d, .previewing (s.sent tab d (mode.sql escaped)).1 mode (mode.title escaped), rfl, ?_,
        .preview rfl rfl, rfl⟩
      simp only [work, Session.preview, hd]
      rfl

theorem meets_work (s : Session) (tab : TabId) (c : Command) : c.Meets (work s tab c).2 := by
  rcases work_makes s tab c with ⟨e, he, hw⟩ | ⟨d, a, -, hw, ha, -⟩
  · rw [hw]
    exact .absent he
  · rw [hw]
    exact ha

end Run

/-! ## runs -/

/-- what is worked at, and what was returned, is the command's -/
def Phase.Obeys (c : Command) : Phase → Prop
  | working _ _ a _ => c.Carries a
  | returned _ _ o _ => c.Ends o
  | _ => True

theorem Phase.Obeys.withStopper {c : Command} {p : Phase} (h : p.Obeys c) (stopper : Stopper) :
    (p.withStopper stopper).Obeys c := by
  cases p <;> exact h

namespace Run
variable {c : Command} {r : Run} {st : Session.Step}

/-- a run that works, or whose command has ended, does so by its command -/
structure Obeys (c : Command) (r : Run) : Prop where
  command : r.plan.command = c
  phase : r.phase.Obeys c

theorem obeys_opened (h : r.plan.command = c) (st : Session.Step) : Obeys c (r.opened st) := by
  unfold opened
  split <;> exact ⟨h, trivial⟩

theorem obeys_worked (h : r.plan.command = c) (hst : c.Meets st.2) (w : WorksheetId) (tab : TabId)
    (stopper : Stopper) : Obeys c (r.worked w tab stopper st) := by
  obtain ⟨s, a | o⟩ := st
  · exact ⟨h, hst⟩
  · exact ⟨h, hst⟩

theorem obeys_closed (h : r.plan.command = c) (result : RunResult) (st : Session.Step) :
    Obeys c (r.closed result st) := by
  obtain ⟨s, a | o⟩ := st
  · exact ⟨h, trivial⟩
  · exact ⟨h, trivial⟩

theorem obeys_begin (plan : Plan) : Obeys plan.command (begin plan) := by
  rw [begin]
  refine obeys_opened ?_ _
  rfl

namespace Obeys

/-- an operation that was given up goes on as if it had been answered -/
theorem giveUp (h : Obeys c r) : Obeys c r.giveUp := by
  unfold Run.giveUp
  split
  · next hp =>
    have ha := h.phase
    rw [hp] at ha
    split
    · split
      · exact obeys_worked h.command (ha.resume _) ..
      · exact h
    · exact h
  · exact h

theorem stopped (h : Obeys c r) (st : Session.Step) : Obeys c (r.stopped st) := by
  obtain ⟨s, b | o⟩ := st
  · exact ⟨h.command, h.phase.withStopper _⟩
  · exact giveUp ⟨h.command, h.phase.withStopper _⟩

theorem step (h : Obeys c r) (e : Event) : Obeys c (r.step e) := by
  cases e with
  | exchange x =>
    rw [Run.step]
    split
    · exact obeys_opened h.command _
    · next hp =>
      have ha := h.phase
      rw [hp] at ha
      exact obeys_worked h.command (ha.resume _) ..
    · exact obeys_closed h.command ..
    · exact h
  | proceed =>
    rw [Run.step]
    split
    · exact obeys_worked h.command (h.command ▸ meets_work ..) ..
    · exact obeys_closed h.command ..
    · exact h
  | stopExchange x =>
    rw [Run.step]
    split
    · exact h.stopped _
    · exact h
  | awake =>
    rw [Run.step]
    split
    · exact h.stopped _
    · exact h

theorem after (h : Obeys c r) (events : List Event) : Obeys c (r.after events) := by
  induction events generalizing r with
  | nil => exact h
  | cons e events ih => exact ih (h.step e)

theorem ends_of_ends? (h : Obeys c r) {e : Event} {o : Except ConsoleError Outcome}
    (ho : r.ends? e = some o) : c.Ends o := by
  have hphase := (h.step e).phase
  unfold ends? Phase.newOutcome? at ho
  split at ho
  · cases ho
  · cases hp : (r.step e).phase with
    | returned =>
      rw [hp] at ho hphase
      cases ho
      exact hphase
    | _ =>
      rw [hp] at ho
      cases ho

theorem ends_of_mem_outcomes (h : Obeys c r) {events : List Event}
    {o : Except ConsoleError Outcome} (ho : o ∈ r.outcomes events) : c.Ends o := by
  induction events generalizing r with
  | nil => cases ho
  | cons e events ih =>
    rcases List.mem_append.mp ho with ho | ho
    · exact h.ends_of_ends? (Option.mem_toList.mp ho)
    · exact ih (h.step e) ho

end Obeys

end Run

end QueryDesk
