import QueryDesk.Proofs.KillPrecedence

/-!
# What the outcome of a query says of its slot

* `Session.Owns`            a query owns the query slot of its tab;
* `TabMemory.SettledBy`     the query slot is settled by a request, with this data;
* `Session.Bears`           the slot of a query bears its outcome out: a result is in it, a failure
  has left it empty, and a query that was superseded does not own it;
* `QueryEnds`               what the last stretch of a query can be (`queryEnds`);
* `OutcomesBorne u run`     the slot bears the outcome out exactly if the query was not overtaken
  while it asked for the name of the new database.  One that was overtaken ends with the result of
  the server, and leaves all memories alone.

**`Traffic.outcomes_borne`**: so it is after every run.
-/

namespace QueryDesk

/-! ## slots that bear an outcome out -/

structure TabMemory.SettledBy (m : TabMemory) (r : RequestId) (data : Option ResultSet) : Prop where
  owner : m.query.result.owner = some r
  state : m.query.state = .settled
  data : m.query.result.data = data
  loading : m.query.result.loading = false
  abort : m.query.abort = none
  busy : m.busy = false

namespace Session

def Owns (s : Session) (q : Sent) : Prop :=
  ∃ m, s.memory? q.tab = some m ∧ m.query.result.owner = some q.request

/-- the query slot of its tab is settled by the query, with this data -/
def HasSettled (s : Session) (q : Sent) (data : Option ResultSet) : Prop :=
  ∃ m, s.memory? q.tab = some m ∧ m.SettledBy q.request data

def Bears (s : Session) (q : Sent) : QueryOutcome → Prop
  | .completed set => s.HasSettled q (some set)
  | .killed set => s.HasSettled q (some set)
  | .failed _ => s.HasSettled q none
  | .superseded => ¬ s.Owns q

theorem HasSettled.owns {s : Session} {q : Sent} {data : Option ResultSet}
    (h : s.HasSettled q data) : s.Owns q := by
  obtain ⟨m, hm, hset⟩ := h
  exact ⟨m, hm, hset.owner⟩

theorem owns_congr {s s' : Session} {q : Sent} (h : s'.memory? q.tab = s.memory? q.tab) :
    s'.Owns q ↔ s.Owns q := by
  unfold Owns
  rw [h]

theorem not_owns_of_stale {s : Session} {q : Sent} (h : s.standing q = .stale) : ¬ s.Owns q := by
  rintro ⟨m, hm, ho⟩
  exact s.standing_eq_stale.mp h m hm ho

theorem owns_of_standing {s : Session} {q : Sent} (h : s.standing q ≠ .stale) : s.Owns q := by
  by_contra hno
  exact h (s.standing_eq_stale.mpr fun m hm ho => hno ⟨m, hm, ho⟩)

end Session

theorem TabMemory.settledBy_settleQuery {m : TabMemory} {q : Sent} (duration : Binary64)
    (data : Option ResultSet) (ho : m.query.result.owner = some q.request) :
    (m.settleQuery q duration data).SettledBy q.request (data.or m.query.result.data) := by
  have hs : m.settleQuery q duration data =
      { m with busy := false, query := ⟨m.query.result.settle data duration, none, .settled⟩ } := by
    simp [settleQuery, Slot.ownedBy, ho]
  rw [hs]
  exact ⟨ho, rfl, rfl, rfl, rfl, rfl⟩

/-- a request that is out and owns the query slot runs in it -/
theorem TabMemory.Agrees.occupied {m : TabMemory} {tab : TabId} {sent : Nat}
    {cancelled : List CancelToken} {fs : List Flight} {f : Flight}
    (h : m.Agrees tab sent cancelled fs) (hf : f ∈ fs)
    (ho : m.query.result.owner = some f.request) : m.Occupied f.request := by
  have hload : m.query.result.loading = true := (h.loading .query).mpr ⟨f, hf, ho⟩
  have hphase := h.phase
  unfold TabMemory.InPhase at hphase
  split at hphase
  · rw [hphase.1] at ho
    cases ho
  · obtain ⟨r, hocc, _⟩ := hphase
    exact Option.some.inj (hocc.owner.symm.trans ho) ▸ hocc
  · obtain ⟨r, hocc, _⟩ := hphase
    exact Option.some.inj (hocc.owner.symm.trans ho) ▸ hocc
  · rw [hphase.2.1] at hload
    cases hload

/-! ## the last stretch of a query -/

/-- the data that a query with this outcome writes -/
def QueryOutcome.data? : QueryOutcome → Option ResultSet
  | completed set => some set
  | killed set => some set
  | failed _ => none
  | superseded => none

/-- the last stretch of a query: from the session `s`, with the call that it waited for -/
inductive QueryEnds (s : Session) (q : Sent) : Await → Session × QueryOutcome → Prop where
  /-- the slot was lost when the answer came -/
  | stale {s'} (h : ¬ s.Owns q) (hm : ∀ tab, s'.memory? tab = s.memory? tab) :
    QueryEnds s q (.querying q) (s', .superseded)
  /-- the slot is written -/
  | settles {a s' outcome m} (duration : Binary64) (hm : s.memory? q.tab = some m)
    (ho : m.query.result.owner = some q.request) (hne : outcome ≠ .superseded)
    (hm' : s'.memory? q.tab = some (m.settleQuery q duration outcome.data?)) :
    QueryEnds s q a (s', outcome)
  /-- the slot was lost while the new database was asked for -/
  | overtaken {s' set duration} (h : ¬ s.Owns q) (hm : ∀ tab, s'.memory? tab = s.memory? tab) :
    QueryEnds s q (.switching q set duration) (s', .completed set)

namespace Session

theorem memory?_endQuery {s : Session} {q : Sent} {m : TabMemory} (hm : s.memory? q.tab = some m)
    (duration : Binary64) (data : Option ResultSet) (result : LogEntry.Result)
    (outcome : QueryOutcome) : (s.endQuery q duration data result outcome).1.memory? q.tab =
      some (m.settleQuery q duration data) := by
  refine (s.memory?_remember q.tab q.tab _).trans ?_
  rw [if_pos rfl, hm]
  rfl

theorem memory?_endQuery_of_lost {s : Session} {q : Sent} (h : ¬ s.Owns q) (duration : Binary64)
    (data : Option ResultSet) (result : LogEntry.Result) (outcome : QueryOutcome) (tab : TabId) :
    (s.endQuery q duration data result outcome).1.memory? tab = s.memory? tab :=
  (Touchdown.settleQuery s q duration data result).memory?_eq fun htab m hm ho => by
    rw [htab] at hm
    exact h ⟨m, hm, ho⟩

theorem ends_of_owns {s s₁ : Session} {q : Sent} {a : Await} (outcome : QueryOutcome)
    (duration : Binary64) (result : LogEntry.Result) (h : s.Owns q)
    (hs : s₁.memory? q.tab = s.memory? q.tab) (hne : outcome ≠ .superseded) :
    QueryEnds s q a ((s₁.endQuery q duration outcome.data? result outcome).1, outcome) := by
  obtain ⟨m, hm, ho⟩ := h
  exact .settles duration hm ho hne (memory?_endQuery (hs.trans hm) ..)

theorem queried_cases (s : Session) (q : Sent) (reply : Except ConsoleError ResultSet) :
    (∃ set duration, s.queried q reply = (s, .waits (.switching q set duration))) ∨
    ∃ s' outcome, s.queried q reply = (s', .ends (.ok (.query outcome))) ∧
      QueryEnds s q (.querying q) (s', outcome) := by
  unfold queried
  cases hs : s.standing q with
  | stale => exact .inr ⟨_, _, rfl, .stale (not_owns_of_stale hs) fun _ => rfl⟩
  | killed =>
    have ho : s.Owns q := owns_of_standing (by rw [hs]; nofun)
    exact .inr ⟨_, _, rfl,
      ends_of_owns (.killed (ResultSet.canceled q.statement.sql)) _ _ ho rfl nofun⟩
  | current =>
    have ho : s.Owns q := owns_of_standing (by rw [hs]; nofun)
    cases reply with
    | error e => exact .inr ⟨_, _, rfl, ends_of_owns (.failed e) _ _ ho rfl nofun⟩
    | ok set =>
      simp only
      split
      · exact .inl ⟨set, _, rfl⟩
      · exact .inr ⟨_, _, rfl, ends_of_owns (.completed set) _ _ ho rfl nofun⟩

/-- whether the new database becomes known or not, the query ends with the result that it had -/
theorem switched_ends (s : Session) (q : Sent) (set : ResultSet) (duration : Binary64)
    (reply : Except ConsoleError ResultSet) :
    ∃ s', s.switched q set duration reply = (s', .ends (.ok (.query (.completed set)))) ∧
      QueryEnds s q (.switching q set duration) (s', .completed set) := by
  have ends : ∀ s₁ : Session, (∀ tab, s₁.memory? tab = s.memory? tab) →
      QueryEnds s q (.switching q set duration)
        ((s₁.completeQuery q duration set).1, .completed set) := by
    intro s₁ hs
    by_cases ho : s.Owns q
    · exact ends_of_owns (.completed set) duration (.data set) ho (hs q.tab) nofun
    · refine .overtaken ho fun tab => ?_
      have hlost : ¬ s₁.Owns q := fun h => ho ((owns_congr (hs q.tab)).mp h)
      exact (memory?_endQuery_of_lost hlost ..).trans (hs tab)
  cases reply with
  | error e => exact ⟨_, rfl, ends s fun _ => rfl⟩
  | ok answer => exact ⟨_, rfl, ends (s.setDatabase q.connection.id answer) fun _ => rfl⟩

/-- **The last stretch of a query, or the one before.** -/
theorem queryEnds (s : Session) {q : Sent} {a : Await} (ha : a.flight? = some ⟨q, .query⟩)
    (reply : a.call.Reply) :
    (∃ set duration, a = .querying q ∧ s.resume a reply = (s, .waits (.switching q set duration))) ∨
    ∃ s' outcome, s.resume a reply = (s', .ends (.ok (.query outcome))) ∧
      QueryEnds s q a (s', outcome) := by
  rcases Await.flight?_eq_query.mp ha with rfl | ⟨set, duration, rfl⟩
  · rcases s.queried_cases q reply with ⟨set, duration, hr⟩ | hends
    · exact .inl ⟨set, duration, rfl, hr⟩
    · exact .inr hends
  · obtain ⟨s', hr, hends⟩ := s.switched_ends q set duration reply
    exact .inr ⟨s', _, hr, hends⟩

end Session

/-! ## outcomes -/

namespace Traffic

/-- the operation ends with this outcome of a query -/
def EndsIn (t t' : Traffic) (task : Nat) (outcome : QueryOutcome) : Prop :=
  t'.endings = t.endings ++ [⟨task, .ok (.query outcome)⟩]

/-- the query asks for the name of the new database, and its slot is no longer its own -/
def Overtaken (t : Traffic) (q : Sent) (a : Await) : Prop :=
  (∃ set duration, a = .switching q set duration) ∧ ¬ t.session.Owns q

end Traffic

/-- the outcomes of queries are borne out by their slots, unless a query is overtaken while it asks
for the name of the new database -/
structure OutcomesBorne (u : Setup) (run : List Traffic.Event) : Prop where
  /-- a query that is answered ends with an outcome, or goes on to ask for the new database -/
  ends : ∀ e (p : Pending) (reply : p.await.call.Reply) q,
    (Traffic.after u run).Hears e p reply → p.await.flight? = some ⟨q, .query⟩ →
    (∃ outcome, (Traffic.after u run).EndsIn (Traffic.after u (e :: run)) p.task outcome) ∨
    ∃ set duration gate, p.await = .querying q ∧
      (Traffic.after u (e :: run)).endings = (Traffic.after u run).endings ∧
      ⟨p.task, .switching q set duration, gate⟩ ∈ (Traffic.after u (e :: run)).pending
  bears_iff : ∀ e (p : Pending) (reply : p.await.call.Reply) q outcome,
    (Traffic.after u run).Hears e p reply → p.await.flight? = some ⟨q, .query⟩ →
    (Traffic.after u run).EndsIn (Traffic.after u (e :: run)) p.task outcome →
    ((Traffic.after u (e :: run)).session.Bears q outcome ↔
      ¬ (Traffic.after u run).Overtaken q p.await)
  /-- a query that was overtaken ends with the result of the server, and writes no memory -/
  overtaken : ∀ e (p : Pending) (reply : p.await.call.Reply) q set duration,
    (Traffic.after u run).Hears e p reply → p.await = .switching q set duration →
    ¬ (Traffic.after u run).session.Owns q →
    (Traffic.after u run).EndsIn (Traffic.after u (e :: run)) p.task (.completed set) ∧
    ∀ tab, (Traffic.after u (e :: run)).session.memory? tab =
      (Traffic.after u run).session.memory? tab

namespace Traffic

section
variable {t : Traffic} {e : Event} {p : Pending} {reply : p.await.call.Reply} {q : Sent}

theorem Hears.queryEnds (h : t.Hears e p reply) (hf : p.await.flight? = some ⟨q, .query⟩) :
    (∃ set duration gate, p.await = .querying q ∧ (t.step e).endings = t.endings ∧
      ⟨p.task, .switching q set duration, gate⟩ ∈ (t.step e).pending) ∨
    ∃ outcome, t.EndsIn (t.step e) p.task outcome ∧
      QueryEnds t.session q p.await ((t.step e).session, outcome) := by
  obtain ⟨i, server, _, hstep⟩ := h.step_eq
  rcases t.session.queryEnds hf reply with ⟨set, duration, ha, hr⟩ | ⟨s', outcome, hr, hends⟩
  · rw [hr] at hstep
    rw [hstep]
    exact .inl ⟨set, duration, _, ha, rfl, List.mem_append_right _ (List.mem_singleton_self _)⟩
  · rw [hr] at hstep
    rw [hstep]
    exact .inr ⟨outcome, rfl, hends⟩

theorem EndsIn.eq {t' : Traffic} {task : Nat} {outcome outcome' : QueryOutcome}
    (h : t.EndsIn t' task outcome) (h' : t.EndsIn t' task outcome') : outcome = outcome' := by
  cases List.append_cancel_left (h.symm.trans h')
  rfl

theorem not_endsIn_of_endings {t' : Traffic} {task : Nat} {outcome : QueryOutcome}
    (h : t'.endings = t.endings) : ¬ t.EndsIn t' task outcome := by
  intro hend
  have hlen := congrArg List.length (h.symm.trans hend)
  simp at hlen

/-- a query that writes its slot leaves it as its outcome says -/
theorem bears_of_settles (ht : Tracked t.session t.awaits) (h : t.Hears e p reply)
    (hf : p.await.flight? = some ⟨q, .query⟩) {m : TabMemory} {s' : Session} {duration : Binary64}
    {outcome : QueryOutcome} (hm : t.session.memory? q.tab = some m)
    (ho : m.query.result.owner = some q.request) (hne : outcome ≠ .superseded)
    (hm' : s'.memory? q.tab = some (m.settleQuery q duration outcome.data?)) :
    s'.Bears q outcome := by
  have hset := TabMemory.settledBy_settleQuery duration outcome.data? ho
  -- nothing was in the slot while the query was out
  have hout : (⟨q, .query⟩ : Flight) ∈ flights t.awaits :=
    List.mem_filterMap.mpr ⟨_, List.mem_map_of_mem h.mem, hf⟩
  rw [((ht.agrees q.tab m hm).occupied hout ho).data] at hset
  cases outcome with
  | completed set => exact ⟨_, hm', hset⟩
  | killed set => exact ⟨_, hm', hset⟩
  | failed e => exact ⟨_, hm', hset⟩
  | superseded => exact absurd rfl hne

end

/-- **After every run the slots bear the outcomes out, unless a query is overtaken.** -/
theorem outcomes_borne (u : Setup) (run : List Event) : OutcomesBorne u run where
  ends := by
    intro e p reply q h hf
    rcases h.queryEnds hf with hon | ⟨outcome, hend, _⟩
    · exact .inr hon
    · exact .inl ⟨outcome, hend⟩
  bears_iff := by
    intro e p reply q outcome h hf hend
    rw [after_cons] at hend ⊢
    rcases h.queryEnds hf with ⟨_, _, _, _, hsame, _⟩ | ⟨outcome', hend', hq⟩
    · exact absurd hend (not_endsIn_of_endings hsame)
    · rw [← hend.eq hend'] at hq
      generalize ha : p.await = a at hq
      generalize hs : ((after u run).step e).session = s' at hq ⊢
      cases hq with
      | stale hlost hm =>
        -- superseded, and rightly so
        refine iff_of_true (fun ho => hlost ((Session.owns_congr (hm q.tab)).mp ho)) ?_
        rintro ⟨⟨_, _, hsw⟩, _⟩
        cases hsw
      | settles duration hm ho hne hm' =>
        have hb := bears_of_settles (tracked_after u run) h hf hm ho hne hm'
        exact iff_of_true hb fun hover => hover.2 ⟨_, hm, ho⟩
      | overtaken hlost hm =>
        -- a result is reported, and the slot is another's still
        refine iff_of_false (fun hb => ?_) fun hno => hno ⟨⟨_, _, rfl⟩, hlost⟩
        have ho : s'.Owns q := Session.HasSettled.owns hb
        exact hlost ((Session.owns_congr (hm q.tab)).mp ho)
  overtaken := by
    intro e p reply q set duration h ha hlost
    rw [after_cons]
    rcases h.queryEnds (by rw [ha]; rfl) with ⟨_, _, _, hq, _⟩ | ⟨outcome, hend, hq⟩
    · rw [ha] at hq
      cases hq
    · rw [ha] at hq
      generalize ((after u run).step e).session = s' at hq ⊢
      cases hq with
      | settles _ hm ho _ _ => exact absurd ⟨_, hm, ho⟩ hlost
      | overtaken _ hm => exact ⟨hend, hm⟩

/-- a query that is overtaken while the new database is asked for is not said to be superseded -/
theorem completed_though_overtaken :
    let u : Setup := ⟨100, 10, 0⟩
    let run : List Event :=
      [.answer 1, .begin (.query ⟨1⟩ "SELECT 1"), .answer 0, .begin (.query ⟨1⟩ "USE x"), .answer 0,
        .answer 0, .begin (.openWorksheet "w" (.fresh "server" "user"))]
    ∃ p q set, (after u run).pending[0]? = some p ∧ p.await.flight? = some ⟨q, .query⟩ ∧
      (after u run).EndsIn (after u (.answer 0 :: run)) p.task (.completed set) ∧
      ¬ (after u (.answer 0 :: run)).session.Owns q ∧
      ¬ (after u (.answer 0 :: run)).session.Bears q (.completed set) := by
  intro u run
  let late (p : Pending) : Bool :=
    match p.await with
    | .switching q _ _ => (after u run).session.standing q = .stale
    | _ => false
  have hlate : (after u run).pending[0]?.any late = true := by decide +kernel
  obtain ⟨p, hp, hl⟩ := (Option.any_eq_true _ _).mp hlate
  obtain ⟨task, a, gate⟩ := p
  cases a with
  | switching q set duration =>
    have hlost := Session.not_owns_of_stale (of_decide_eq_true hl)
    rcases (Hears.answer hp).queryEnds (q := q) rfl with ⟨_, _, _, hq, _⟩ | ⟨outcome, hend, hq⟩
    · cases hq
    · have hlost' : ¬ (after u (.answer 0 :: run)).session.Owns q ∧ outcome = .completed set := by
        rw [after_cons]
        generalize ((after u run).step (.answer 0)).session = s' at hq ⊢
        cases hq with
        | settles _ hm ho _ _ => exact absurd ⟨_, hm, ho⟩ hlost
        | overtaken _ hm => exact ⟨fun ho => hlost ((Session.owns_congr (hm q.tab)).mp ho), rfl⟩
      obtain ⟨hno, rfl⟩ := hlost'
      exact ⟨_, q, set, hp, rfl, hend, hno, fun hb => hno (Session.HasSettled.owns hb)⟩
  | _ => cases hl

end Traffic

end QueryDesk
