import QueryDesk.Proofs.Events

/-!
# A query that was stopped ends as stopped

* `Traffic.EndsWith`         a query ends with a result: in its slot, as its outcome, in the log;
* `Traffic.HasAcknowledged`  a stop of a query was acknowledged while it ran;
* `KillPrecedence u run`     a query that is to be stopped ends with the result for stopped queries
  if its own answer is still to come; once it waits for the name of the new database, the stop
  comes too late and it ends with the result of the server.  No other query ends as stopped.

**`Traffic.kill_precedence`**: so it is after every run.
-/

namespace QueryDesk

/-! ## the end of a query -/

/-- the query of `q` ends with this result: it is in the slot, the outcome and the log -/
structure Traffic.EndsWith (t t' : Traffic) (task : Nat) (q : Sent) (set : ResultSet)
    (outcome : QueryOutcome) : Prop where
  slot : ∃ m, t'.session.memory? q.tab = some m ∧ m.query.result.owner = some q.request ∧
    m.query.result.data = some set ∧ m.query.state = .settled
  ending : t'.endings = t.endings ++ [⟨task, .ok (.query outcome)⟩]
  log : t'.session.log = t.session.log.push
    ⟨q.time, none, q.statement.sql, .data set, q.connection.name, .user⟩

/-- ... with the result for stopped queries -/
def Traffic.EndsStopped (t t' : Traffic) (task : Nat) (q : Sent) : Prop :=
  t.EndsWith t' task q (ResultSet.canceled q.statement.sql)
    (.killed (ResultSet.canceled q.statement.sql))

theorem Await.flight?_eq_query {a : Await} {q : Sent} :
    a.flight? = some ⟨q, .query⟩ ↔
      a = .querying q ∨ ∃ set duration, a = .switching q set duration := by
  cases a <;> simp [Await.flight?]

namespace Traffic

section
variable {t : Traffic} {e : Event}

/-- a stretch that ends a query, from the session `s` -/
theorem Hears.endsWith {p : Pending} {reply : p.await.call.Reply} {s : Session} {q : Sent}
    {duration : Binary64} {set : ResultSet} {outcome : QueryOutcome} (h : t.Hears e p reply)
    (hr : t.session.resume p.await reply =
      s.endQuery q duration (some set) (.data set) outcome)
    (hm : s.memory? q.tab = t.session.memory? q.tab) (hl : s.log = t.session.log)
    (hq : t.session.IsToStop q) : t.EndsWith (t.step e) p.task q set outcome := by
  obtain ⟨m, hmem, ho, _⟩ := hq
  obtain ⟨i, server, _, hstep⟩ := h.step_eq
  rw [hr] at hstep
  rw [hstep]
  have hslot : (s.remember q.tab (·.settleQuery q duration (some set))).memory? q.tab =
      some (m.settleQuery q duration (some set)) := by
    rw [Session.memory?_remember, if_pos rfl, hm, hmem]
    rfl
  refine ⟨⟨m.settleQuery q duration (some set), hslot, ?_⟩, rfl, ?_⟩
  · have hs : m.settleQuery q duration (some set) =
        { m with
          busy := false
          query := ⟨m.query.result.settle (some set) duration, none, .settled⟩ } := by
      simp [TabMemory.settleQuery, Slot.ownedBy, ho]
    rw [hs]
    exact ⟨ho, rfl, rfl⟩
  · show s.log.push _ = _
    rw [hl]

/-- while its own answer is still to come, a query that is to be stopped ends as stopped -/
theorem Hears.endsStopped {task : Nat} {gate : Option Gate} {q : Sent}
    {reply : Except ConsoleError ResultSet} (h : t.Hears e ⟨task, .querying q, gate⟩ reply)
    (hq : t.session.IsToStop q) : t.EndsStopped (t.step e) task q := by
  have hr : t.session.queried q reply = t.session.endQuery q (q.time.elapsed t.session.now)
      (some (ResultSet.canceled q.statement.sql)) (.data (ResultSet.canceled q.statement.sql))
      (.killed (ResultSet.canceled q.statement.sql)) := by
    unfold Session.queried
    rw [t.session.standing_eq_killed.mpr hq]
  exact h.endsWith hr rfl rfl hq

/-- while the new database is asked for, it ends with the result of the server -/
theorem Hears.endsCompleted {task : Nat} {gate : Option Gate} {q : Sent} {set : ResultSet}
    {duration : Binary64} {reply : Except ConsoleError ResultSet}
    (h : t.Hears e ⟨task, .switching q set duration, gate⟩ reply) (hq : t.session.IsToStop q) :
    t.EndsWith (t.step e) task q set (.completed set) := by
  cases reply with
  | error _ => exact h.endsWith rfl rfl rfl hq
  | ok answer => exact h.endsWith rfl rfl rfl hq

end

/-! ## where stops come from -/

/-- a stop of `r` was acknowledged while it ran -/
def HasAcknowledged (u : Setup) (run : List Event) (tab : TabId) (r : RequestId) : Prop :=
  ∃ e run' task x, e :: run' <:+ run ∧ x.tab = tab ∧ (after u run').Acknowledges e task x r

theorem HasAcknowledged.cons {u : Setup} {run : List Event} {tab : TabId} {r : RequestId}
    (h : HasAcknowledged u run tab r) (e : Event) : HasAcknowledged u (e :: run) tab r := by
  obtain ⟨e', run', task, x, hsuf, h⟩ := h
  exact ⟨e', run', task, x, hsuf.trans (List.suffix_cons e run), h⟩

/-- a query is to be stopped only after a stop that was acknowledged while it ran -/
theorem hasAcknowledged (u : Setup) (run : List Event) {tab : TabId} {m : TabMemory} {r : RequestId}
    (hm : (after u run).session.memory? tab = some m) (ho : m.query.result.owner = some r)
    (hk : m.isKilled = true) : HasAcknowledged u run tab r := by
  induction run generalizing m with
  | nil => cases hm
  | cons e run ih =>
    -- it was to be stopped before the event already
    have before : ∀ {m₀ : TabMemory}, (after u run).session.memory? tab = some m₀ →
        m.query = m₀.query → HasAcknowledged u (e :: run) tab r := by
      intro m₀ hm₀ hq
      have hk₀ : m₀.isKilled = true := by
        unfold TabMemory.isKilled at hk ⊢
        rwa [← hq]
      exact (ih hm₀ (hq ▸ ho) hk₀).cons e
    have hc := change (tracked_after u run) hm
    generalize hbefore : (after u run).session.memory? tab = memory at hc
    cases hc with
    | created _ => cases ho
    | kept _ _ => exact before hbefore rfl
    | @launched m₀ f _ _ =>
      cases hp : f.place with
      | query =>
        rw [m₀.launch_query hp] at hk
        cases hk
      | preview mode =>
        refine before hbefore ?_
        rw [m₀.launch_preview hp, TabMemory.query_modifyPreview]
    | @landed m₀ _ p reply f _ _ _ _ hl =>
      by_cases hp : f.place = .query
      · have hsettled := (hl.query hp).1
        simp [TabMemory.isKilled, hsettled] at hk
      · exact before hbefore (hl.preview hp).1
    | @stopped m₀ task r' x h hx htab hr =>
      have hrr : r' = r := Option.some.inj ((m₀.running?_eq_some.mp hr).2.symm.trans ho)
      subst hrr htab
      exact ⟨e, run, task, x, List.suffix_refl _, rfl, h, hx, ⟨m₀, hbefore, hr⟩, _, hm, hk, ho⟩
    | refreshed _ _ => cases ho
    | cleared _ => exact before hbefore rfl

/-- an operation that ends as a query that was stopped is one -/
theorem exists_stopped (u : Setup) (run : List Event) {task : Nat} {set : ResultSet}
    (h : ⟨task, .ok (.query (.killed set))⟩ ∈ (after u run).endings) :
    ∃ q, HasSent u run task ⟨q, .query⟩ ∧ set = ResultSet.canceled q.statement.sql ∧
      HasAcknowledged u run q.tab q.request := by
  induction run with
  | nil => cases h
  | cons e run ih =>
    have before : (⟨task, .ok (.query (.killed set))⟩ : Ending) ∈ (after u run).endings →
        ∃ q, HasSent u (e :: run) task ⟨q, .query⟩ ∧ set = ResultSet.canceled q.statement.sql ∧
          HasAcknowledged u (e :: run) q.tab q.request := by
      intro h
      obtain ⟨q, hsent, hset, hack⟩ := ih h
      exact ⟨q, hsent.cons e, hset, hack.cons e⟩
    rw [after_cons] at h
    cases (after u run).happens e with
    | begin o =>
      rcases mem_endings_goOn h with h | ⟨_, hend⟩
      · exact before h
      · have hst := (after u run).session.began o
        generalize o.begin (after u run).session = st at hst hend
        cases hst with
        | keep hk => cases hk.outcome _ hend
        | clone _ _ => cases hend
        | launch _ _ _ _ _ => cases hend
        | stop _ _ _ => cases hend
    | @hears _ p reply hh =>
      obtain ⟨i, server, _, hstep⟩ := hh.step_eq
      rw [hstep] at h
      rcases mem_endings_goOn h with h | ⟨rfl, hend⟩
      · exact before h
      · have hbound := (tracked_after u run).bound _ (List.mem_map_of_mem hh.mem)
        have hst := (after u run).session.resumed reply hbound
        have hsent : ∀ f, p.await.flight? = some f → HasSent u run p.task f :=
          fun f hf => hasSent u run hh.mem hf
        obtain ⟨task, a, gate⟩ := p
        generalize (after u run).session.resume a reply = st at hst hend
        cases hst with
        | keep _ hk => cases hk.outcome _ hend
        | arrive _ hr =>
          cases hend
          cases hr
        | switch _ _ => cases hend
        | land f hf _ hr =>
          cases hend
          obtain ⟨q, rfl, ⟨m, hm, ho, hk⟩, rfl⟩ := hr _ rfl
          exact ⟨q, (hsent _ rfl).cons e, rfl, (hasAcknowledged u run hm ho hk).cons e⟩
        | acknowledge _ => cases hend
    | deed d => exact before h
    | idle clock _ _ he _ _ =>
      rw [he] at h
      exact before h

end Traffic

/-! ## runs -/

/-- a query that is to be stopped ends as stopped as long as its own answer is still to come, and
only such a query does -/
structure KillPrecedence (u : Setup) (run : List Traffic.Event) : Prop where
  ends_iff : ∀ e (p : Pending) (reply : p.await.call.Reply) q,
    (Traffic.after u run).Hears e p reply → p.await.flight? = some ⟨q, .query⟩ →
    (Traffic.after u run).session.IsToStop q →
    ((Traffic.after u run).EndsStopped (Traffic.after u (e :: run)) p.task q ↔
      p.await = .querying q)
  /-- while the name of the new database is still to come, the result of the server stands -/
  late : ∀ e task gate q set duration (reply : Except ConsoleError ResultSet),
    (Traffic.after u run).Hears e ⟨task, .switching q set duration, gate⟩ reply →
    (Traffic.after u run).session.IsToStop q →
    (Traffic.after u run).EndsWith (Traffic.after u (e :: run)) task q set (.completed set)
  only : ∀ task set, ⟨task, .ok (.query (.killed set))⟩ ∈ (Traffic.after u run).endings →
    ∃ q, Traffic.HasSent u run task ⟨q, .query⟩ ∧ set = ResultSet.canceled q.statement.sql ∧
      Traffic.HasAcknowledged u run q.tab q.request

namespace Traffic

/-- **After every run a query that is to be stopped ends so, unless its own answer has come.** -/
theorem kill_precedence (u : Setup) (run : List Event) : KillPrecedence u run where
  ends_iff := by
    rintro e ⟨task, a, gate⟩ reply q h hf hq
    rcases Await.flight?_eq_query.mp hf with rfl | ⟨set, duration, rfl⟩
    · exact ⟨fun _ => rfl, fun _ => h.endsStopped hq⟩
    · constructor
      · intro hstop
        have he := hstop.ending.symm.trans (h.endsCompleted hq).ending
        cases List.append_cancel_left he
      · intro ha
        cases ha
  late := fun _ _ _ _ _ _ _ h hq => h.endsCompleted hq
  only := fun _ _ h => exists_stopped u run h

/-- a stop that comes while the new database is asked for is acknowledged, and the query ends with
the result of the server all the same -/
theorem stopped_too_late :
    let u : Setup := ⟨100, 10, 0⟩
    let run : List Event :=
      [.answer 1, .begin (.stop ⟨1⟩), .answer 0, .begin (.query ⟨1⟩ "USE x"), .answer 0, .answer 0,
        .begin (.openWorksheet "w" (.fresh "server" "user"))]
    ∃ p q, (after u run).pending[0]? = some p ∧ p.await.flight? = some ⟨q, .query⟩ ∧
      (after u run).session.IsToStop q ∧
      ¬ (after u run).EndsStopped (after u (.answer 0 :: run)) p.task q := by
  intro u run
  let late (p : Pending) : Bool :=
    match p.await with
    | .switching q _ _ => (after u run).session.standing q = .killed
    | _ => false
  have hlate : (after u run).pending[0]?.any late = true := by decide +kernel
  obtain ⟨p, hp, hl⟩ := (Option.any_eq_true _ _).mp hlate
  obtain ⟨task, a, gate⟩ := p
  cases a with
  | switching q set duration =>
    have hq := (after u run).session.standing_eq_killed.mp (of_decide_eq_true hl)
    refine ⟨⟨task, .switching q set duration, gate⟩, q, hp, rfl, hq, fun hstop => ?_⟩
    have hend := (Hears.answer hp).endsCompleted hq
    cases List.append_cancel_left (hstop.ending.symm.trans hend.ending)
  | _ => cases hl

end Traffic

end QueryDesk
