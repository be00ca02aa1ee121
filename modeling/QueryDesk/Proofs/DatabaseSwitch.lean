import QueryDesk.Proofs.ActiveDatabase
import QueryDesk.Proofs.Latest
import QueryDesk.Proofs.Outcomes

/-!
# Switches of the database

A query that switches the database of its connection is followed up with the question for the new
one, and is completed with the answer.

* `queried_of_switch`          what follows the answer of the server to a switch;
* `SwitchesFollowedUp u run`   a switch is completed once it is followed up, waits until then in an
  empty slot, and nothing else renames a database but what was asked for by hand;
* `SwitchesNoticed u run`      a switch is followed up exactly if its query still owns its slot and
  is not to be stopped when the answer comes.

**`Traffic.switches_followed_up`**, **`Traffic.switches_noticed`**: so it is after every run.
-/

namespace QueryDesk

/-! ## the answer to a switch -/

namespace Session
variable {s : Session} {q : Sent} {set : ResultSet}

/-- the answer to a switch: it is followed up if the query still owns its slot and is not to be
stopped; if not, the query ends, and no record changes -/
theorem queried_of_switch (s : Session) (hq : Sql.isDatabaseSwitch q.statement.sql = true)
    (set : ResultSet) :
    ((s.Owns q ∧ ¬ s.IsToStop q) ∧
      s.queried q (.ok set) = (s, .waits (.switching q set (q.time.elapsed s.now)))) ∨
    (¬ (s.Owns q ∧ ¬ s.IsToStop q) ∧ ∃ s' outcome,
      s.queried q (.ok set) = (s', .ends (.ok (.query outcome))) ∧
      s'.store.connections = s.store.connections ∧
      (outcome = .superseded ∨ outcome = .killed (ResultSet.canceled q.statement.sql))) := by
  unfold queried
  cases hs : s.standing q with
  | stale => exact .inr ⟨fun h => not_owns_of_stale hs h.1, _, _, rfl, rfl, .inl rfl⟩
  | killed =>
    exact .inr ⟨fun h => h.2 (s.standing_eq_killed.mp hs), _, _, rfl, rfl, .inr rfl⟩
  | current =>
    have ho : s.Owns q := owns_of_standing (by rw [hs]; nofun)
    refine .inl ⟨⟨ho, fun hstop => ?_⟩, by simp only [hq, if_true]⟩
    rw [s.standing_eq_killed.mpr hstop] at hs
    cases hs

theorem notes_switched (s : Session) (q : Sent) (set : ResultSet) (duration : Binary64)
    (reply : Except ConsoleError ResultSet) :
    s.Notes (s.switched q set duration reply).1 q.connection.id reply := by
  cases reply with
  | error e => rfl
  | ok answer => exact ⟨databaseOf answer, answer.names_databaseOf, rfl⟩

end Session

/-! ## switches that are followed up -/

namespace Traffic

/-- the record of the tab's connection takes the name over, when the second answer has come -/
example :
    let switched : List Event :=
      [.answer 0, .begin (.query ⟨1⟩ "USE x"), .answer 0, .answer 0,
        .begin (.openWorksheet "w" (.fresh "server" "user"))]
    let databases (run : List Event) :=
      (after ⟨100, 10, 0⟩ run).session.store.connections.records.map (·.db)
    databases switched = [none, none] ∧
      databases (.answer 0 :: switched) = [none, some "Mock result for: SELECT DATABASE()"] := by
  decide +kernel

end Traffic

/-! ## switches that are not -/

/-- a switch is followed up exactly if its query still owns its slot, and is not to be stopped, when
the server has made it -/
structure SwitchesNoticed (u : Setup) (run : List Traffic.Event) : Prop where
  asks_iff : ∀ e task gate q set,
    (Traffic.after u run).Hears e ⟨task, .querying q, gate⟩ (.ok set) →
    Sql.isDatabaseSwitch q.statement.sql = true →
    ((Traffic.after u run).Makes e (Await.askDatabase q.connection.id) ↔
      (Traffic.after u run).session.Owns q ∧ ¬ (Traffic.after u run).session.IsToStop q)
  /-- the query that asks does not end before the reply -/
  stays : ∀ e task gate q set,
    (Traffic.after u run).Hears e ⟨task, .querying q, gate⟩ (.ok set) →
    Sql.isDatabaseSwitch q.statement.sql = true →
    (Traffic.after u run).Makes e (Await.askDatabase q.connection.id) →
    (Traffic.after u (e :: run)).endings = (Traffic.after u run).endings ∧
    ∃ duration gate',
      ⟨task, .switching q set duration, gate'⟩ ∈ (Traffic.after u (e :: run)).pending
  /-- ... which is put on record, whatever has become of the slot -/
  noted : ∀ e task gate q set duration (reply : Except ConsoleError ResultSet),
    (Traffic.after u run).Hears e ⟨task, .switching q set duration, gate⟩ reply →
    (Traffic.after u run).session.Notes (Traffic.after u (e :: run)).session q.connection.id reply
  /-- the others end with that answer, and the record stays as it was -/
  lost : ∀ e task gate q set,
    (Traffic.after u run).Hears e ⟨task, .querying q, gate⟩ (.ok set) →
    Sql.isDatabaseSwitch q.statement.sql = true →
    ¬ (Traffic.after u run).Makes e (Await.askDatabase q.connection.id) →
    ((Traffic.after u run).EndsIn (Traffic.after u (e :: run)) task .superseded ∨
      (Traffic.after u run).EndsIn (Traffic.after u (e :: run)) task
        (.killed (ResultSet.canceled q.statement.sql))) ∧
    (Traffic.after u (e :: run)).server.calls = (Traffic.after u run).server.calls ∧
    (Traffic.after u (e :: run)).session.store.connections =
      (Traffic.after u run).session.store.connections

namespace Traffic

/-- the two ways on from the answer to a switch -/
theorem Hears.switch_cases {t : Traffic} {e : Event} {task : Nat} {gate : Option Gate} {q : Sent}
    {set : ResultSet} (h : t.Hears e ⟨task, .querying q, gate⟩ (.ok set))
    (hq : Sql.isDatabaseSwitch q.statement.sql = true) :
    ((t.session.Owns q ∧ ¬ t.session.IsToStop q) ∧
      t.Makes e (Await.askDatabase q.connection.id) ∧ (t.step e).endings = t.endings ∧
      ∃ duration gate', ⟨task, .switching q set duration, gate'⟩ ∈ (t.step e).pending) ∨
    (¬ (t.session.Owns q ∧ ¬ t.session.IsToStop q) ∧
      (t.EndsIn (t.step e) task .superseded ∨
        t.EndsIn (t.step e) task (.killed (ResultSet.canceled q.statement.sql))) ∧
      (t.step e).server.calls = t.server.calls ∧
      (t.step e).session.store.connections = t.session.store.connections) := by
  rcases t.session.queried_of_switch hq set with ⟨hown, hr⟩ | ⟨hno, s', outcome, hr, hconn, hout⟩
  · obtain ⟨hmakes, hsame, gate', hmem⟩ := h.waits hr
    exact .inl ⟨hown, hmakes, hsame, _, gate', hmem⟩
  · obtain ⟨hcalls, hend, hs⟩ := h.ends hr
    refine .inr ⟨hno, ?_, hcalls, by rw [hs, hconn]⟩
    rcases hout with rfl | rfl
    · exact .inl hend
    · exact .inr hend

/-- **After every run a switch is followed up as long as its query has its slot.** -/
theorem switches_noticed (u : Setup) (run : List Event) : SwitchesNoticed u run where
  asks_iff := by
    intro e task gate q set h hq
    rcases h.switch_cases hq with ⟨hown, hmakes, _⟩ | ⟨hno, _, hcalls, _⟩
    · exact iff_of_true hmakes hown
    · exact iff_of_false (not_makes_of_calls hcalls) hno
  stays := by
    intro e task gate q set h hq hmakes
    rcases h.switch_cases hq with ⟨_, _, hstays⟩ | ⟨_, _, hcalls, _⟩
    · exact hstays
    · exact absurd hmakes (not_makes_of_calls hcalls)
  noted := by
    intro e task gate q set duration reply h
    rw [after_cons, h.session]
    exact (after u run).session.notes_switched q set duration reply
  lost := by
    intro e task gate q set h hq hno
    rcases h.switch_cases hq with ⟨_, hmakes, _⟩ | ⟨_, hlost⟩
    · exact absurd hmakes hno
    · exact hlost

/-- the result that the server has for the query -/
def result? (t : Traffic) (q : Sent) : Option ResultSet :=
  ((t.server.reply (Await.querying q).call).1 : Except ConsoleError ResultSet).toOption

/-- a switch on a connection on record that the server makes, and that no longer has its slot -/
def misses (t : Traffic) : Await → Bool
  | .querying q => t.session.standing q ≠ .current ∧ Sql.isDatabaseSwitch q.statement.sql ∧
      (t.result? q).isSome ∧ ∃ c ∈ t.session.store.connections.records, c.id = q.connection.id
  | _ => false

theorem unnoticed_of_misses {t : Traffic} {i : Nat} (h : (t.awaits[i]?).any t.misses = true) :
    ∃ task gate q set, t.Hears (.answer i) ⟨task, .querying q, gate⟩ (.ok set) ∧
      Sql.isDatabaseSwitch q.statement.sql = true ∧
      (∃ c ∈ t.session.store.connections.records, c.id = q.connection.id) ∧
      (∃ outcome, t.EndsIn (t.step (.answer i)) task outcome) ∧
      ¬ t.Makes (.answer i) (Await.askDatabase q.connection.id) := by
  obtain ⟨a, ha, hm⟩ := (Option.any_eq_true _ _).mp h
  rw [awaits, List.getElem?_map] at ha
  obtain ⟨⟨task, a', gate⟩, hp, rfl⟩ := Option.map_eq_some_iff.mp ha
  cases a' with
  | querying q =>
    obtain ⟨hs, hq, hans, hc⟩ := of_decide_eq_true hm
    obtain ⟨set, hset⟩ := Option.isSome_iff_exists.mp hans
    have hreply : (t.server.reply (Await.querying q).call).1 =
        (.ok set : Except ConsoleError ResultSet) := by
      unfold result? at hset
      generalize (t.server.reply (Await.querying q).call).1 = reply at hset ⊢
      cases reply with
      | ok _ => exact congrArg Except.ok (Option.some.inj hset)
      | error _ => cases hset
    have hh := Hears.answer hp
    rw [hreply] at hh
    refine ⟨task, gate, q, set, hh, hq, hc, ?_⟩
    rcases hh.switch_cases hq with ⟨⟨hown, hstop⟩, _⟩ | ⟨_, hend, hcalls, _⟩
    · cases hst : t.session.standing q with
      | stale => exact absurd hown (Session.not_owns_of_stale hst)
      | killed => exact absurd (t.session.standing_eq_killed.mp hst) hstop
      | current => exact absurd hst hs
    · exact ⟨hend.elim (⟨_, ·⟩) (⟨_, ·⟩), not_makes_of_calls hcalls⟩
  | _ => cases hm

/-- a switch that the server has made on a connection on record is not followed up when its tab has
another query meanwhile, was made as new, or has had the query stopped -/
theorem switch_unnoticed :
    let u : Setup := ⟨100, 10, 0⟩
    let sent : List Event :=
      [.begin (.query ⟨1⟩ "USE x"), .answer 0, .answer 0,
        .begin (.openWorksheet "w" (.fresh "server" "user"))]
    ∀ run ∈ [.begin (.query ⟨1⟩ "SELECT 1") :: sent, .deed (.refreshLastTab ⟨1⟩) :: sent,
        .answer 1 :: .begin (.stop ⟨1⟩) :: sent],
      ∃ task gate q set, (after u run).Hears (.answer 0) ⟨task, .querying q, gate⟩ (.ok set) ∧
        Sql.isDatabaseSwitch q.statement.sql = true ∧
        (∃ c ∈ (after u run).session.store.connections.records, c.id = q.connection.id) ∧
        (∃ outcome, (after u run).EndsIn (after u (.answer 0 :: run)) task outcome) ∧
        ¬ (after u run).Makes (.answer 0) (Await.askDatabase q.connection.id) := by
  intro u sent run hrun
  refine unnoticed_of_misses ?_
  simp only [List.mem_cons, List.not_mem_nil, or_false] at hrun
  rcases hrun with rfl | rfl | rfl <;> decide +kernel

end Traffic

end QueryDesk
