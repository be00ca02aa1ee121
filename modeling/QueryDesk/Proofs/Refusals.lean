import QueryDesk.Proofs.Isolation
import QueryDesk.Proofs.KillTargeting
import QueryDesk.Proofs.Records

/-!
# Stops that fail

A stop that the server does not hear of, or refuses, leaves everything as it was; of a refusal the
user is told.

* `ResultSet.Refuses`       the first result is an error row;
* `Reads`, `RefusalLines`   how a row reads as the lines of a notice;
* `Traffic.drained u run`   the notices that have been taken from the queue, the first one first;
* `StopsReported u run`     a stop sends one statement (`StopsReported.statement_eq`), and does with
  its reply one of three things; all notices, drained or not, are those of the stops that were
  refused, in their order.

**`Traffic.stops_reported`**: so it is after every run.
-/

namespace QueryDesk

/-! ## refusals -/

/-- the first result is an object with an error number -/
structure ResultSet.Refuses (set : ResultSet) (row : List (String × Json)) : Prop where
  first : set.results.head? = some (.object row)
  errno : "errno" ∈ row.map (·.1)

theorem ResultSet.firstError?_eq_some {set : ResultSet} {row : List (String × Json)} :
    set.firstError? = some row ↔ set.Refuses row := by
  have hany : ∀ r : List (String × Json), r.any (·.1 = "errno") = true ↔ "errno" ∈ r.map (·.1) := by
    intro r
    simp
  constructor
  · intro h
    obtain ⟨j, hj, hrow⟩ := Option.bind_eq_some_iff.mp h
    obtain ⟨r, hr, hif⟩ := Option.bind_eq_some_iff.mp hrow
    cases j <;> cases hr
    split at hif
    · next he =>
      cases hif
      exact ⟨hj, (hany _).mp he⟩
    · cases hif
  · rintro ⟨hfirst, herrno⟩
    unfold firstError?
    rw [hfirst]
    exact if_pos ((hany row).mpr herrno)

/-- a member of a row as a line: a text stands bare, any other value as compact JSON -/
inductive Reads : String × Json → String → Prop where
  | text (key text : String) : Reads (key, .string text) (key ++ ": " ++ text)
  | value (key : String) {j : Json} (h : ∀ text, j ≠ .string text) :
    Reads (key, j) (key ++ ": " ++ j.compact)

/-- the lines of the notice of a refusal: a heading, and a line for each member in their order -/
inductive RefusalLines (row : List (String × Json)) : List String → Prop where
  | lines {ls : List String} (h : List.Forall₂ Reads row ls) :
    RefusalLines row ("Failed to stop the query" :: ls)

theorem reads_plain (m : String × Json) : Reads m (m.1 ++ ": " ++ Session.plain m.2) := by
  obtain ⟨key, j⟩ := m
  cases j with
  | string text => exact .text key text
  | _ => exact .value key nofun

theorem refusalLines_refusal (row : List (String × Json)) :
    RefusalLines row (Session.refusal row) := by
  refine .lines ?_
  induction row with
  | nil => exact .nil
  | cons m row ih => exact .cons (reads_plain m) ih

example :
    Session.refusal [("errno", .string "1094"), ("fatal", .bool false), ("rows", .array [.null])] =
      ["Failed to stop the query", "errno: 1094", "fatal: false", "rows: [null]"] := by
  decide +kernel

/-! ## notices -/

namespace Traffic

/-- the notices that the event takes from the queue -/
def drains (t : Traffic) : Event → List Notice
  | .deed .drainNotices => t.session.notices.drain.1
  | _ => []

def drained (u : Setup) : List Event → List Notice
  | [] => []
  | e :: run => drained u run ++ (after u run).drains e

/-- the notices that came with the ends of operations, in their order -/
def refusals (t : Traffic) : List Notice := t.endings.filterMap Ending.notice?

end Traffic

/-- a stretch queues the notice that it ends with, and no other -/
def Session.Tells (s : Session) (st : Session.Step) : Prop :=
  st.1.notices.pending = s.notices.pending ++ st.2.notice?.toList

theorem Discreet.tells {s : Session} {st : Session.Step} (h : Discreet s st) : s.Tells st := by
  unfold Session.Tells
  rw [h.notices, h.silent]
  exact (List.append_nil _).symm

theorem Amends.notices {s s' : Session} {a : Await} {reply : a.call.Reply}
    (h : Amends s a reply s') : s'.notices = s.notices := by
  cases h <;> rfl

theorem Handles.tells {s : Session} {a : Await} {reply : a.call.Reply} {st : Session.Step}
    (h : Handles s a reply st) : s.Tells st := by
  cases h with
  | goes hr hd =>
    have ht := hd.tells
    unfold Session.Tells at ht ⊢
    rw [ht, hr.notices]
  | asks _ _ => exact (List.append_nil _).symm
  | refuses _ => rfl

theorem Session.tells_begin (s : Session) (o : Operation) : s.Tells (o.begin s) := by
  rcases s.discreet_begin o with hd | ⟨c, rfl⟩
  · exact hd.tells
  · exact (List.append_nil _).symm

namespace Traffic

theorem refusals_goOn (t : Traffic) (task : Nat) (st : Session.Step) :
    (t.goOn task st).refusals = t.refusals ++ st.2.notice?.toList := by
  obtain ⟨s, p⟩ := st
  unfold refusals
  cases p with
  | waits a => exact (List.append_nil _).symm
  | ends r =>
    show (t.endings ++ [(⟨task, r⟩ : Ending)]).filterMap Ending.notice? = _
    rw [List.filterMap_append]
    cases hr : notice? r <;> simp [Ending.notice?, Progress.notice?, hr]

/-- an event queues the notices of the operations that end in it -/
theorem tells_step (t : Traffic) (e : Event) : ∃ news : List Notice,
    t.drains e ++ (t.step e).session.notices.pending = t.session.notices.pending ++ news ∧
      (t.step e).refusals = t.refusals ++ news := by
  have silent : t.drains e = [] → (t.step e).session.notices = t.session.notices →
      (t.step e).endings = t.endings → ∃ news : List Notice,
        t.drains e ++ (t.step e).session.notices.pending = t.session.notices.pending ++ news ∧
          (t.step e).refusals = t.refusals ++ news := by
    intro hd hn he
    refine ⟨[], ?_, ?_⟩
    · rw [hd, hn, List.append_nil]
      rfl
    · rw [refusals, he, List.append_nil]
      rfl
  cases t.happens e with
  | begin o =>
    refine ⟨_, ?_, refusals_goOn ..⟩
    rw [session_begin]
    exact t.session.tells_begin o
  | @hears _ p reply h =>
    have ht := (t.session.handles p.await reply).tells
    obtain ⟨i, server, _, hstep⟩ := h.step_eq
    have hd : t.drains e = [] := by cases h <;> rfl
    refine ⟨(t.session.resume p.await reply).2.notice?.toList, ?_, ?_⟩
    · rw [hd, h.session]
      exact ht
    · rw [hstep, refusals_goOn]
      rfl
  | deed d =>
    cases d with
    | drainNotices =>
      exact ⟨[], rfl, (List.append_nil _).symm⟩
    | refreshLastTab tab =>
      refine silent rfl ?_ rfl
      show ((Deed.refreshLastTab tab).apply t.session).notices = t.session.notices
      simp only [Deed.apply, Session.refreshLastTab]
      cases t.session.store.tabs.tab? tab <;> rfl
    | _ => exact silent rfl rfl rfl
  | idle clock hs _ he _ hd =>
    refine silent ?_ (by rw [hs]) he
    cases e with
    | deed d => exact absurd rfl (hd d)
    | _ => rfl

/-- the notices of a run are those of the stops that were refused -/
theorem drained_append_pending (u : Setup) (run : List Event) :
    drained u run ++ (after u run).session.notices.pending = (after u run).refusals := by
  induction run with
  | nil => rfl
  | cons e run ih =>
    obtain ⟨news, hqueue, hends⟩ := (after u run).tells_step e
    rw [after_cons, hends, ← ih, drained, List.append_assoc, hqueue, ← List.append_assoc]

end Traffic

/-! ## stops -/

/-- what a stop does, and what the user is told of it -/
structure StopsReported (u : Setup) (run : List Traffic.Event) : Prop where
  /-- a stop that finds the tab and both connections sends one statement, and changes nothing -/
  sends : ∀ tab x c via, (Traffic.after u run).session.store.tabs.tab? tab = some x →
    (Traffic.after u run).session.connectionOf tab = .ok c →
    (Traffic.after u run).session.store.connections.ofWorksheet? x.worksheet = some via →
    (Traffic.after u run).Makes (.begin (.stop tab))
      (.query via.id ⟨Sql.kill c.thread, none⟩ none) ∧
    (Traffic.after u (.begin (.stop tab) :: run)).session = (Traffic.after u run).session ∧
    (Traffic.after u (.begin (.stop tab) :: run)).endings = (Traffic.after u run).endings
  /-- ... and then waits for the reply -/
  waits : ∀ p ∈ (Traffic.after u run).pending, ∀ s tab,
    Traffic.begun u p.task run = some (s, .stop tab) →
    ∃ x : Stop, x.tab = tab ∧ p.await = x.await ∧ s.Aims x
  unreachable : ∀ e task (x : Stop) gate err,
    (Traffic.after u run).Hears e ⟨task, x.await, gate⟩ (.error err) →
    (Traffic.after u (e :: run)).endings =
      (Traffic.after u run).endings ++ [⟨task, .ok (.stop (.unreachable err))⟩] ∧
    (Traffic.after u (e :: run)).session = (Traffic.after u run).session
  /-- of a refusal the user is told, and nothing else changes -/
  refused : ∀ e task (x : Stop) gate set row,
    (Traffic.after u run).Hears e ⟨task, x.await, gate⟩ (.ok set) → set.Refuses row →
    ∃ lines, RefusalLines row lines ∧
      (Traffic.after u (e :: run)).endings =
        (Traffic.after u run).endings ++ [⟨task, .ok (.stop (.refused lines))⟩] ∧
      (Traffic.after u (e :: run)).session = { (Traffic.after u run).session with
        notices := ⟨(Traffic.after u run).session.notices.pending ++ [⟨.error, lines⟩]⟩ }
  killed : ∀ e task (x : Stop) gate set,
    (Traffic.after u run).Hears e ⟨task, x.await, gate⟩ (.ok set) → (∀ row, ¬ set.Refuses row) →
    (Traffic.after u (e :: run)).endings =
      (Traffic.after u run).endings ++ [⟨task, .ok (.stop .killed)⟩] ∧
    (Traffic.after u (e :: run)).session.notices = (Traffic.after u run).session.notices
  /-- the user is told of every refusal once, in their order, and of nothing else -/
  told : Traffic.drained u run ++ (Traffic.after u run).session.notices.pending =
    (Traffic.after u run).refusals
  once : ((Traffic.after u run).endings.map (·.task)).Nodup

/-- the statement of a stop, letter by letter -/
theorem StopsReported.statement_eq {u : Setup} {run : List Traffic.Event} (h : StopsReported u run)
    {tab : TabId} {x : QueryTab} {c via : Connection} {id : ConnectionId} {request : QueryRequest}
    {abort : Option CancelToken} (hx : (Traffic.after u run).session.store.tabs.tab? tab = some x)
    (hc : (Traffic.after u run).session.connectionOf tab = .ok c)
    (hv : (Traffic.after u run).session.store.connections.ofWorksheet? x.worksheet = some via)
    (hmakes : (Traffic.after u run).Makes (.begin (.stop tab)) (.query id request abort)) :
    id = via.id ∧ request.maxRows = none ∧
      request.sql.toList = "KILL QUERY ".toList ++ Nat.toDigits 10 c.thread.toNat := by
  have hsent := List.append_cancel_left (hmakes.symm.trans (h.sends tab x c via hx hc hv).1)
  obtain ⟨rfl, rfl, -⟩ := Call.query.inj (List.singleton_inj.mp hsent)
  exact ⟨rfl, rfl, Sql.toList_kill c.thread⟩

namespace Traffic

/-- a stop that is out goes back to its beginning -/
theorem aims_of_begun {u : Setup} {run : List Event} {p : Pending}
    (hp : p ∈ (after u run).pending) {s : Session} {tab : TabId}
    (hb : begun u p.task run = some (s, .stop tab)) :
    ∃ x : Stop, x.tab = tab ∧ p.await = x.await ∧ s.Aims x := by
  obtain ⟨s', o, hb', hf⟩ := follows u run hp
  cases hb.symm.trans hb'
  have hstop : ∃ via thread target, p.await = .killing tab via thread target := by
    generalize p.await = a at hf
    cases hf with
    | stop => exact ⟨_, _, _, rfl⟩
    | other h => cases h
  obtain ⟨via, thread, target, ha⟩ := hstop
  obtain ⟨early, hasked⟩ := exists_askedAt u run hp (x := ⟨tab, via, thread, target⟩) ha
  have hb' := begun_of_suffix (u := u) hasked.suffix
  rw [← hasked.task, hb] at hb'
  cases hb'
  exact ⟨⟨tab, via, thread, target⟩, rfl, ha, hasked.aims⟩

/-- **After every run stops that fail have changed nothing but the notices.** -/
theorem stops_reported (u : Setup) (run : List Event) : StopsReported u run where
  sends := by
    intro tab x c via hx hc hv
    have hr : (Operation.stop tab).begin (after u run).session =
        ((after u run).session, .waits (.killing tab via.id c.thread
          (((after u run).session.memory? tab).bind (·.running?)))) := by
      simp only [Operation.begin, Session.stop, hx, hc, hv]
      rfl
    have hstep : (after u run).step (.begin (.stop tab)) =
        ({ after u run with tasks := (after u run).tasks + 1 } : Traffic).goOn
          ((after u run).tasks + 1) ((after u run).session, .waits (.killing tab via.id c.thread
            (((after u run).session.memory? tab).bind (·.running?)))) := by
      rw [step, hr]
    rw [after_cons, Makes, hstep, calls_goOn]
    exact ⟨rfl, rfl, rfl⟩
  waits := fun _ hp _ _ hb => aims_of_begun hp hb
  unreachable := fun _ _ _ _ _ h => (h.ends rfl).2
  refused := by
    intro e task x gate set row h hrow
    have hr : (after u run).session.killed x.tab x.target (.ok set) =
        ((after u run).session.notify ⟨.error, Session.refusal row⟩,
          .ends (.ok (.stop (.refused (Session.refusal row))))) := by
      simp only [Session.killed, ResultSet.firstError?_eq_some.mpr hrow]
      rfl
    exact ⟨_, refusalLines_refusal row, (h.ends hr).2⟩
  killed := by
    intro e task x gate set h hno
    have hnone : set.firstError? = none :=
      Option.eq_none_iff_forall_ne_some.mpr fun row hrow =>
        hno row (ResultSet.firstError?_eq_some.mp hrow)
    have hr : (after u run).session.killed x.tab x.target (.ok set) =
        ((after u run).session.markKilled x.tab x.target, .ends (.ok (.stop .killed))) := by
      simp only [Session.killed, hnone]
      rfl
    obtain ⟨_, hend, hs⟩ := h.ends hr
    refine ⟨hend, ?_⟩
    rw [after_cons, hs]
    exact (Discreet.acknowledged _ x.tab x.target).notices
  told := drained_append_pending u run
  once := (List.nodup_append.mp (numbered_after u run).once).2.1

end Traffic

end QueryDesk
