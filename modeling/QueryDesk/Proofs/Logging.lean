import QueryDesk.Proofs.LogWindow
import QueryDesk.Proofs.Numbering
import QueryDesk.Proofs.Prompt
import QueryDesk.Proofs.Tracking

/-!
# Every query is logged once, and truthfully

* `Heading`                   what an entry says beside the result: when, what, where, for whom;
* `Session.heading?`          the heading of a request that is begun, if its tab has a connection;
* `QueryOutcome.logged?`      what the log says of a query that ended so;
* `Traffic.answer u task run` what the server sent to the query of an operation;
* `Traffic.record? u run x`    the entry of an operation that has ended so, if it has one;
* `Traffic.pushed u run`      the entries of all operations that have ended, in their order;
* `Truthful u run`            the log holds the last of them.

**`Traffic.log_truthful`**: so it is after every run.
-/

namespace QueryDesk

/-! ## headings -/

structure Heading where
  start : Instant
  name : Option String
  sql : String
  connection : String
  origin : LogEntry.Origin

def Heading.entry (h : Heading) (result : LogEntry.Result) : LogEntry :=
  ⟨h.start, h.name, h.sql, result, h.connection, h.origin⟩

/-- the heading of a request that is begun; there is none unless its tab has a connection -/
def Session.heading? (s : Session) : Operation → Option Heading
  | .query tab sql =>
    match s.connectionOf tab with
    | .ok c => some ⟨s.now, none, sql, c.name, .user⟩
    | .error _ => none
  | .preview tab target mode =>
    match s.connectionOf tab with
    | .ok c =>
      let escaped := Sql.Identifier.escapeText target
      some ⟨s.now, some (mode.title escaped), mode.sql escaped, c.name, .console⟩
    | .error _ => none
  | _ => none

/-- the heading of a request that is out -/
def Await.heading? : Await → Option Heading
  | previewing q _ title =>
    some ⟨q.time, some title, q.statement.sql, q.connection.name, .console⟩
  | querying q => some ⟨q.time, none, q.statement.sql, q.connection.name, .user⟩
  | switching q _ _ => some ⟨q.time, none, q.statement.sql, q.connection.name, .user⟩
  | _ => none

theorem Await.heading?_of_flight? {a : Await} (h : a.flight? = none) : a.heading? = none := by
  cases a <;> first | rfl | cases h

/-! ## results -/

def QueryOutcome.logged? (answer : Option (Except ConsoleError ResultSet)) :
    QueryOutcome → Option LogEntry.Result
  | completed set => some (.data set)
  | killed set => some (.data set)
  | failed e => some (.error e.message)
  | superseded => answer.map Session.resultOf

/-- the entry of a request that ended so: a query always has one, a preview only with a result -/
def Heading.record? (h : Heading) (answer : Option (Except ConsoleError ResultSet))
    (result : Except ConsoleError Outcome) : Option LogEntry :=
  match h.origin, result with
  | .user, .ok (.query outcome) => (outcome.logged? answer).map h.entry
  | .console, .ok (.preview set) => some (h.entry (.data set))
  | _, _ => none

theorem Heading.record?_cases {h : Heading} {answer : Option (Except ConsoleError ResultSet)}
    {result : Except ConsoleError Outcome} {entry : LogEntry}
    (hr : h.record? answer result = some entry) :
    (h.origin = .user ∧ ∃ outcome said, result = .ok (.query outcome) ∧
      outcome.logged? answer = some said ∧ entry = h.entry said) ∨
    (h.origin = .console ∧ ∃ set, result = .ok (.preview set) ∧ entry = h.entry (.data set)) := by
  unfold record? at hr
  split at hr
  · next outcome ho =>
    obtain ⟨said, hsaid, rfl⟩ := Option.map_eq_some_iff.mp hr
    exact .inl ⟨ho, outcome, said, rfl, hsaid, rfl⟩
  · next set ho =>
    cases hr
    exact .inr ⟨ho, set, rfl, rfl⟩
  · cases hr

/-- what the server sends to the query of the operation -/
def Await.answer? : (a : Await) → a.call.Reply → Option (Except ConsoleError ResultSet)
  | .querying _, reply => some reply
  | _, _ => none

/-! ## what a stretch adds to the log -/

def Operation.isRequest : Operation → Bool
  | preview .. | query .. => true
  | _ => false

/-- an operation begins without an entry; it goes on with its heading, which a request has then, and
a request that ends at once has failed for want of one -/
structure Opens (s : Session) (o : Operation) (st : Session.Step) : Prop where
  log : st.1.log = s.log
  waits : ∀ a, st.2 = .waits a → a.heading? = s.heading? o ∧
    (s.heading? o = none → o.isRequest = false)
  ends : ∀ r, st.2 = .ends r → s.heading? o = none ∧ (o.isRequest = true → ∃ e, r = .error e)

namespace Opens
variable {s : Session} {o : Operation}

theorem fail (ho : s.heading? o = none) (e : ConsoleError) : Opens s o (s.fail e) where
  log := rfl
  waits := by
    intro a ha
    cases ha
  ends := by
    intro r hr
    cases hr
    exact ⟨ho, fun _ => ⟨e, rfl⟩⟩

theorem sends {s' : Session} {a : Await} {h : Heading} (ho : s.heading? o = some h)
    (hl : s'.log = s.log) (ha : a.heading? = some h) : Opens s o (s', .waits a) where
  log := hl
  waits := by
    intro b hb
    cases hb
    refine ⟨ha.trans ho.symm, fun hno => ?_⟩
    rw [ho] at hno
    cases hno
  ends := by
    intro r hr
    cases hr

theorem of_other {st : Session.Step} (ho : s.heading? o = none) (hr : o.isRequest = false)
    (hl : st.1.log = s.log) (ha : ∀ a ∈ st.2.awaits, a.flight? = none) : Opens s o st where
  log := hl
  waits := by
    intro a hwait
    have hmem : a ∈ st.2.awaits := by
      rw [hwait]
      exact List.mem_singleton_self a
    exact ⟨(Await.heading?_of_flight? (ha a hmem)).trans ho.symm, fun _ => hr⟩
  ends := by
    intro r _
    refine ⟨ho, fun hyes => ?_⟩
    rw [hr] at hyes
    cases hyes

theorem of_housekeeping {st : Session.Step} (ho : s.heading? o = none) (hr : o.isRequest = false)
    (h : Housekeeping s st) : Opens s o st := of_other ho hr h.upkeep.log h.flights

end Opens

theorem Session.opens (s : Session) (o : Operation) : Opens s o (o.begin s) := by
  cases o with
  | openWorksheet name params =>
    exact .of_housekeeping rfl rfl (.of_upkeep (.createWorksheet s name) (.beginOpen _ _ params _))
  | openConnection w params => exact .of_housekeeping rfl rfl (.beginOpen s w params _)
  | closeWorksheet w => exact .of_housekeeping rfl rfl (.closeTabs w _ s)
  | addTab w name => exact .of_housekeeping rfl rfl (.beginTab s w name _)
  | deleteTab tab => exact .of_housekeeping rfl rfl (.deleteTab s tab)
  | preview tab target mode =>
    cases hc : s.connectionOf tab with
    | error e =>
      simp only [Operation.begin, Session.preview, hc]
      exact .fail (by simp only [heading?, hc]) e
    | ok c =>
      simp only [Operation.begin, Session.preview, hc]
      exact .sends (by simp only [heading?, hc]; rfl) rfl rfl
  | query tab sql =>
    cases hc : s.connectionOf tab with
    | error e =>
      simp only [Operation.begin, Session.query, hc]
      exact .fail (by simp only [heading?, hc]) e
    | ok c =>
      simp only [Operation.begin, Session.query, hc]
      exact .sends (by simp only [heading?, hc]; rfl) rfl rfl
  | stop tab =>
    simp only [Operation.begin, Session.stop]
    split
    · exact .fail rfl _
    · split
      · exact .fail rfl _
      · split
        · exact .fail rfl _
        · exact .of_other rfl rfl rfl fun a ha => List.mem_singleton.mp ha ▸ rfl
  | cloneConnection source tab =>
    exact .of_other rfl rfl rfl fun a ha => List.mem_singleton.mp ha ▸ rfl
  | release c => exact .of_other rfl rfl rfl fun a ha => List.mem_singleton.mp ha ▸ rfl
  | refreshDatabase c => exact .of_other rfl rfl rfl fun a ha => List.mem_singleton.mp ha ▸ rfl

/-- a stretch after a reply: the operation goes on with its heading, or ends with the entry that its
outcome calls for -/
inductive Reports (s : Session) (a : Await) (reply : a.call.Reply) : Session.Step → Prop where
  | goes_on {s' b} (hl : s'.log = s.log) (hb : b.heading? = a.heading?) :
    Reports s a reply (s', .waits b)
  | ends {s' r}
    (hl : ∀ earlier, s'.log = (a.heading?.bind
      (·.record? ((a.answer? reply).or earlier) r)).toList.foldl QueryLog.push s.log)
    (hr : ∀ h earlier, a.heading? = some h → h.origin = .user →
      (h.record? ((a.answer? reply).or earlier) r).isSome) : Reports s a reply (s', .ends r)

theorem Session.log_markKilled (s : Session) (tab : TabId) (target : Option RequestId) :
    (s.markKilled tab target).log = s.log := by
  unfold markKilled
  split
  · rfl
  · split
    · split <;> rfl
    · rfl

namespace Reports
variable {s s' : Session} {a : Await} {reply : a.call.Reply}

theorem of_none {r : Except ConsoleError Outcome} (ha : a.heading? = none) (hl : s'.log = s.log) :
    Reports s a reply (s', .ends r) := by
  refine .ends (fun earlier => ?_) fun h earlier hh => ?_
  · rw [ha]
    exact hl
  · rw [ha] at hh
    cases hh

theorem of_housekeeping {st : Session.Step} (ha : a.flight? = none) (h : Housekeeping s st) :
    Reports s a reply st := by
  have hno := Await.heading?_of_flight? ha
  obtain ⟨s', p⟩ := st
  cases p with
  | ends r => exact .of_none hno h.upkeep.log
  | waits b =>
    have hb := Await.heading?_of_flight? (h.flights b (List.mem_singleton_self b))
    exact .goes_on h.upkeep.log (hb.trans hno.symm)

theorem of_query {q : Sent} {result : LogEntry.Result} {outcome : QueryOutcome}
    (ha : a.heading? = some ⟨q.time, none, q.statement.sql, q.connection.name, .user⟩)
    (hl : s'.log = s.log)
    (ho : ∀ earlier, outcome.logged? ((a.answer? reply).or earlier) = some result) :
    Reports s a reply ((s'.recordQuery q result).finish (.query outcome)) := by
  refine .ends (fun earlier => ?_) fun h earlier hh _ => ?_
  · rw [ha]
    simp only [Option.bind_some, Heading.record?, ho earlier]
    show s'.log.push _ = _
    rw [hl]
    rfl
  · rw [ha] at hh
    cases hh
    simp [Heading.record?, ho earlier]

end Reports

theorem Session.reports (s : Session) {a : Await} (reply : a.call.Reply) (hb : a.Bound) :
    Reports s a reply (s.resume a reply) := by
  -- only a request that is out has a heading
  cases ha : a.flight? with
  | none =>
    have hst := s.resumed reply hb
    generalize s.resume a reply = st at hst ⊢
    have hno := Await.heading?_of_flight? ha
    cases hst with
    | keep _ h => exact .of_housekeeping ha h
    | arrive _ _ => exact .of_none hno rfl
    | switch _ _ => cases ha
    | land f hf _ _ =>
      rw [ha] at hf
      cases hf
    | acknowledge _ => exact .of_none hno (s.log_markKilled _ _)
  | some f =>
    cases a with
    | previewing q mode title =>
      cases reply with
      | error e => exact .ends (fun _ => rfl) fun h _ hh ho => by cases hh; cases ho
      | ok set => exact .ends (fun _ => rfl) fun h _ hh ho => by cases hh; cases ho
    | querying q =>
      simp only [resume, queried]
      split
      · exact .of_query rfl rfl fun _ => rfl
      · exact .of_query rfl rfl fun _ => rfl
      · exact .of_query rfl rfl fun _ => rfl
      · split
        · exact .goes_on rfl rfl
        · exact .of_query rfl rfl fun _ => rfl
    | switching q set duration =>
      cases reply with
      | error e => exact .of_query rfl rfl fun _ => rfl
      | ok answer => exact .of_query rfl rfl fun _ => rfl
    | _ => cases ha

/-! ## runs -/

namespace Traffic

/-- what the server says in the event to the query of the operation -/
def repliesTo (t : Traffic) (task : Nat) : Event → Option (Except ConsoleError ResultSet)
  | .answer i =>
    match t.pending[i]? with
    | some p =>
      if p.task = task then p.await.answer? (t.server.reply p.await.call).1 else none
    | none => none
  | .giveUp i =>
    match t.pending[i]? with
    | some p =>
      if p.task = task ∧ t.isGivenUp p.await = true then p.await.answer? (.error .cancelled)
      else none
    | none => none
  | _ => none

/-- what the server has sent to the query of the operation, if it has answered -/
def answer (u : Setup) (task : Nat) : List Event → Option (Except ConsoleError ResultSet)
  | [] => none
  | e :: run => ((after u run).repliesTo task e).or (answer u task run)

def heading? (u : Setup) (task : Nat) (run : List Event) : Option Heading :=
  (begun u task run).bind fun b => b.1.heading? b.2

def asked (u : Setup) (task : Nat) (run : List Event) : Bool :=
  (begun u task run).any (·.2.isRequest)

/-- the entry of an operation that has ended so -/
def record? (u : Setup) (run : List Event) (x : Ending) : Option LogEntry :=
  (heading? u x.task run).bind (·.record? (answer u x.task run) x.result)

def pushed (u : Setup) (run : List Event) : List LogEntry :=
  (after u run).endings.filterMap (record? u run)

section
variable {u : Setup} {run : List Event} {t : Traffic} {e : Event}

theorem Hears.repliesTo {p : Pending} {reply : p.await.call.Reply} (h : t.Hears e p reply) :
    t.repliesTo p.task e = p.await.answer? reply := by
  cases h with
  | answer h => simp only [Traffic.repliesTo, h, if_true]
  | giveUp h hup => simp only [Traffic.repliesTo, h, hup, and_self, if_true]

theorem repliesTo_of_ended (ht : t.Numbered) {x : Ending} (hx : x ∈ t.endings) (e : Event) :
    t.repliesTo x.task e = none := by
  cases e with
  | answer i =>
    simp only [repliesTo]
    split
    · next p hp => exact if_neg (ht.ne (List.mem_of_getElem? hp) hx)
    · rfl
  | giveUp i =>
    simp only [repliesTo]
    split
    · next p hp => exact if_neg fun h => ht.ne (List.mem_of_getElem? hp) hx h.1
    · rfl
  | _ => rfl

/-- a heading is that of the operation in the session in which it was begun -/
theorem heading?_of_suffix {early : List Event} {o : Operation} (h : .begin o :: early <:+ run) :
    heading? u ((after u early).tasks + 1) run = (after u early).session.heading? o := by
  unfold heading?
  rw [begun_of_suffix h]
  rfl

theorem asked_of_suffix {early : List Event} {o : Operation} (h : .begin o :: early <:+ run) :
    asked u ((after u early).tasks + 1) run = o.isRequest := by
  unfold asked
  rw [begun_of_suffix h]
  rfl

theorem heading?_cons {task : Nat} (h : task ≤ (after u run).tasks) (e : Event) :
    heading? u task (e :: run) = heading? u task run := by
  unfold heading?
  rw [begun_cons h]

/-- what has been logged stays as it is -/
theorem record?_cons {x : Ending} (hx : x ∈ (after u run).endings) (e : Event) :
    record? u (e :: run) x = record? u run x := by
  have ht := numbered_after u run
  have ha : answer u x.task (e :: run) = answer u x.task run := by
    show ((after u run).repliesTo x.task e).or _ = _
    rw [repliesTo_of_ended ht hx]
    rfl
  unfold record?
  rw [heading?_cons (ht.ending_le hx), ha]

theorem asked_cons {task : Nat} (h : task ≤ (after u run).tasks) (e : Event) :
    asked u task (e :: run) = asked u task run := by
  unfold asked
  rw [begun_cons h]

/-- an operation has ended as the log says: a query that was sent has its entry, and a request that
was not has failed -/
def Told (u : Setup) (run : List Event) (x : Ending) : Prop :=
  match heading? u x.task run with
  | some h => h.origin = .user → (record? u run x).isSome
  | none => asked u x.task run = true → ∃ e, x.result = .error e

theorem told_cons {x : Ending} (hx : x ∈ (after u run).endings) (e : Event) :
    Told u (e :: run) x ↔ Told u run x := by
  have hle := (numbered_after u run).ending_le hx
  unfold Told
  rw [heading?_cons hle, asked_cons hle, record?_cons hx]

/-- an operation is under way with its heading, which a request has -/
def UnderWay (u : Setup) (run : List Event) (task : Nat) (a : Await) : Prop :=
  heading? u task run = a.heading? ∧ (a.heading? = none → asked u task run = false)

theorem underWay_cons {p : Pending} (hp : p ∈ (after u run).pending) {a : Await} (e : Event) :
    UnderWay u (e :: run) p.task a ↔ UnderWay u run p.task a := by
  have hle := (numbered_after u run).pending_le hp
  unfold UnderWay
  rw [heading?_cons hle, asked_cons hle]

/-- the log is what the operations that have ended make of it -/
structure Logged (u : Setup) (run : List Event) : Prop where
  log : (after u run).session.log =
    (pushed u run).foldl QueryLog.push (QueryLog.empty u.logCapacity)
  underWay : ∀ p ∈ (after u run).pending, UnderWay u run p.task p.await
  told : ∀ x ∈ (after u run).endings, Told u run x

theorem Logged.underWay_cons (h : Logged u run) {p : Pending} (hp : p ∈ (after u run).pending)
    (e : Event) : UnderWay u (e :: run) p.task p.await :=
  (Traffic.underWay_cons hp e).mpr (h.underWay p hp)

/-- an event in which no operation ends -/
theorem Logged.of_quiet (h : Logged u run)
    (hl : ((after u run).step e).session.log = (after u run).session.log)
    (he : ((after u run).step e).endings = (after u run).endings)
    (hp : ∀ p ∈ ((after u run).step e).pending, UnderWay u (e :: run) p.task p.await) :
    Logged u (e :: run) where
  log := by
    have hpushed : pushed u (e :: run) = pushed u run := by
      unfold pushed
      rw [after_cons, he]
      exact List.filterMap_congr fun x hx => record?_cons hx e
    rw [after_cons, hl, hpushed]
    exact h.log
  underWay := hp
  told := by
    intro x hx
    rw [after_cons, he] at hx
    exact (told_cons hx e).mpr (h.told x hx)

/-- an event in which an operation ends -/
theorem Logged.of_ending (h : Logged u run) {x : Ending}
    (he : ((after u run).step e).endings = (after u run).endings ++ [x])
    (hl : ((after u run).step e).session.log =
      (record? u (e :: run) x).toList.foldl QueryLog.push (after u run).session.log)
    (hx : Told u (e :: run) x)
    (hp : ∀ p ∈ ((after u run).step e).pending, p ∈ (after u run).pending) :
    Logged u (e :: run) where
  log := by
    have hold : (after u run).endings.filterMap (record? u (e :: run)) = pushed u run :=
      List.filterMap_congr fun y hy => record?_cons hy e
    have hpushed : pushed u (e :: run) = pushed u run ++ (record? u (e :: run) x).toList := by
      rw [← hold, pushed, after_cons, he, List.filterMap_append]
      cases hx : record? u (e :: run) x <;> simp [hx]
    rw [after_cons, hl, hpushed, List.foldl_append, h.log]
  underWay := fun p hmem => h.underWay_cons (hp p hmem) e
  told := by
    intro y hy
    rw [after_cons, he] at hy
    rcases List.mem_append.mp hy with hy | hy
    · exact (told_cons hy e).mpr (h.told y hy)
    · rw [List.mem_singleton.mp hy]
      exact hx

theorem Logged.begin (h : Logged u run) (o : Operation) : Logged u (.begin o :: run) := by
  have hst := (after u run).session.opens o
  have hhead := heading?_of_suffix (u := u) (List.suffix_refl (.begin o :: run))
  have hasked := asked_of_suffix (u := u) (List.suffix_refl (.begin o :: run))
  have hstep : (after u run).step (.begin o) =
      { after u run with tasks := (after u run).tasks + 1 }.goOn ((after u run).tasks + 1)
        (o.begin (after u run).session) := rfl
  rcases hres : o.begin (after u run).session with ⟨s, p⟩
  rw [hres] at hst hstep
  cases p with
  | ends r =>
    -- an operation that ends at once has no heading
    obtain ⟨hno, hfails⟩ := hst.ends r rfl
    have hentry : record? u (.begin o :: run) ⟨(after u run).tasks + 1, r⟩ = none := by
      unfold record?
      rw [hhead, hno]
      rfl
    refine h.of_ending (x := ⟨(after u run).tasks + 1, r⟩) (by rw [hstep]; rfl) ?_ ?_ ?_
    · rw [hentry, hstep]
      exact hst.log
    · unfold Told
      rw [hhead, hno, hasked]
      exact hfails
    · rw [hstep]
      exact fun p hp => hp
  | waits a =>
    refine h.of_quiet (by rw [hstep]; exact hst.log) (by rw [hstep]; rfl) fun p hp => ?_
    rw [hstep] at hp
    rcases mem_goOn hp with hp | ⟨htask, hwait⟩
    · exact h.underWay_cons hp _
    · obtain ⟨ha, hr⟩ := hst.waits _ hwait
      unfold UnderWay
      rw [htask, hhead, hasked, ha]
      exact ⟨rfl, hr⟩

theorem Logged.hears (h : Logged u run) {p : Pending} {reply : p.await.call.Reply}
    (hh : (after u run).Hears e p reply) : Logged u (e :: run) := by
  have hst := (after u run).session.reports reply
    ((tracked_after u run).bound _ (List.mem_map_of_mem hh.mem))
  obtain ⟨hhead, hasked⟩ := h.underWay_cons hh.mem e
  obtain ⟨i, server, _, hstep⟩ := hh.step_eq
  generalize (after u run).session.resume p.await reply = st at hst hstep
  have hpend : ∀ q ∈ (after u run).pending.eraseIdx i, q ∈ (after u run).pending :=
    fun q hq => List.mem_of_mem_eraseIdx hq
  cases hst with
  | goes_on hl hb =>
    refine h.of_quiet (by rw [hstep]; exact hl) (by rw [hstep]; rfl) fun q hq => ?_
    rw [hstep] at hq
    rcases mem_goOn hq with hq | ⟨htask, hwait⟩
    · exact h.underWay_cons (hpend q hq) e
    · cases hwait
      unfold UnderWay
      rw [htask, hhead, hb]
      exact ⟨rfl, hasked⟩
  | @ends s' r hl hr =>
    -- what the server has said is said in this event, or was said before the new database was asked
    -- for
    have hentry : record? u (e :: run) ⟨p.task, r⟩ = p.await.heading?.bind
        (·.record? ((p.await.answer? reply).or (answer u p.task run)) r) := by
      unfold record?
      rw [hhead, ← hh.repliesTo]
      rfl
    refine h.of_ending (x := ⟨p.task, r⟩) (by rw [hstep]; rfl) ?_ ?_ ?_
    · rw [hentry, hstep]
      exact hl (answer u p.task run)
    · unfold Told
      rw [hhead, hentry]
      cases ha : p.await.heading? with
      | some heading => exact fun ho => hr heading (answer u p.task run) ha ho
      | none =>
        intro hyes
        rw [hasked ha] at hyes
        cases hyes
    · rw [hstep]
      exact hpend

theorem log_deed (d : Deed) (s : Session) : (d.apply s).log = s.log := by
  cases d with
  | refreshLastTab tab =>
    simp only [Deed.apply, Session.refreshLastTab]
    cases s.store.tabs.tab? tab <;> rfl
  | _ => rfl

/-- **The log is what the operations that have ended make of it, after every run.** -/
theorem logged_after (u : Setup) (run : List Event) : Logged u run := by
  induction run with
  | nil =>
    refine ⟨rfl, fun p hp => ?_, fun x hx => ?_⟩
    · cases hp
    · cases hx
  | cons e run ih =>
    cases (after u run).happens e with
    | begin o => exact ih.begin o
    | hears h => exact ih.hears h
    | deed d => exact ih.of_quiet (log_deed d _) rfl fun p hp => ih.underWay_cons hp _
    | idle clock hs hp he _ _ =>
      exact ih.of_quiet (by rw [hs]) he fun p hmem => ih.underWay_cons (hp ▸ hmem) e

end

end Traffic

/-- the log tells of the operations that have ended, and of each of them truly -/
structure Truthful (u : Setup) (run : List Traffic.Event) : Prop where
  /-- the log holds the last of the entries that came, in the order of their coming -/
  log : (Traffic.after u run).session.log.entries =
    (Traffic.pushed u run).drop ((Traffic.pushed u run).length - max u.logCapacity 1)
  /-- an operation ends once -/
  once : ((Traffic.after u run).endings.map (·.task)).Nodup
  /-- a query that found its tab and its connection ends with an outcome and an entry -/
  query : ∀ early tab sql c, .begin (.query tab sql) :: early <:+ run →
    (Traffic.after u early).session.connectionOf tab = .ok c →
    ∀ x ∈ (Traffic.after u run).endings, x.task = (Traffic.after u early).tasks + 1 →
    ∃ outcome result, x.result = .ok (.query outcome) ∧
      outcome.logged? (Traffic.answer u x.task run) = some result ∧
      Traffic.record? u run x =
        some ⟨(Traffic.after u early).session.now, none, sql, result, c.name, .user⟩
  /-- a preview that ends with a result has an entry -/
  preview : ∀ early tab target mode, .begin (.preview tab target mode) :: early <:+ run →
    ∀ x ∈ (Traffic.after u run).endings, x.task = (Traffic.after u early).tasks + 1 →
    ∀ set, x.result = .ok (.preview set) →
    ∃ c, (Traffic.after u early).session.connectionOf tab = .ok c ∧
      Traffic.record? u run x = some ⟨(Traffic.after u early).session.now,
        some (mode.title (Sql.Identifier.escapeText target)),
        mode.sql (Sql.Identifier.escapeText target), .data set, c.name, .console⟩
  /-- nothing else has one -/
  only : ∀ x ∈ (Traffic.after u run).endings, (Traffic.record? u run x).isSome →
    ∃ early o, .begin o :: early <:+ run ∧ x.task = (Traffic.after u early).tasks + 1 ∧
      ((∃ tab sql c outcome, o = .query tab sql ∧
        (Traffic.after u early).session.connectionOf tab = .ok c ∧
        x.result = .ok (.query outcome)) ∨
      ∃ tab target mode set, o = .preview tab target mode ∧ x.result = .ok (.preview set))
  /-- the statement of an entry is the one that was sent, on the connection that it names -/
  sent : ∀ early o h, .begin o :: early <:+ run →
    (Traffic.after u early).session.heading? o = some h → ∃ tab c request abort,
      (Traffic.after u early).session.connectionOf tab = .ok c ∧
      (Traffic.after u early).Makes (.begin o) (.query c.id request abort) ∧
      h.sql = request.sql ∧ h.connection = c.name

namespace Traffic

section
variable {u : Setup} {early run : List Event} {o : Operation} {x : Ending}

theorem exists_heading {entry : LogEntry} (hr : record? u run x = some entry) :
    ∃ early o h, .begin o :: early <:+ run ∧ x.task = (after u early).tasks + 1 ∧
      (after u early).session.heading? o = some h ∧
      h.record? (answer u x.task run) x.result = some entry := by
  obtain ⟨h, hh, hrec⟩ := Option.bind_eq_some_iff.mp hr
  obtain ⟨⟨s, o⟩, hb, hso⟩ := Option.bind_eq_some_iff.mp hh
  obtain ⟨early, hsuf, rfl, htask⟩ := suffix_of_begun hb
  exact ⟨early, o, h, hsuf, htask, hso, hrec⟩

end

end Traffic

/-- a request with a heading is a query or a preview of a tab with a connection -/
theorem Session.heading?_cases {s : Session} {o : Operation} {h : Heading}
    (hh : s.heading? o = some h) :
    (∃ tab sql c, o = .query tab sql ∧ s.connectionOf tab = .ok c ∧
      h = ⟨s.now, none, sql, c.name, .user⟩) ∨
    ∃ tab target mode c, o = .preview tab target mode ∧ s.connectionOf tab = .ok c ∧
      h = ⟨s.now, some (mode.title (Sql.Identifier.escapeText target)),
        mode.sql (Sql.Identifier.escapeText target), c.name, .console⟩ := by
  cases o with
  | query tab sql =>
    cases hc : s.connectionOf tab with
    | error e =>
      simp only [heading?, hc] at hh
      cases hh
    | ok c =>
      simp only [heading?, hc] at hh
      exact .inl ⟨tab, sql, c, rfl, hc, (Option.some.inj hh).symm⟩
  | preview tab target mode =>
    cases hc : s.connectionOf tab with
    | error e =>
      simp only [heading?, hc] at hh
      cases hh
    | ok c =>
      simp only [heading?, hc] at hh
      exact .inr ⟨tab, target, mode, c, rfl, hc, (Option.some.inj hh).symm⟩
  | _ => cases hh

/-- a request with a heading is sent on the connection of its tab -/
theorem Session.call_of_heading? {s : Session} {o : Operation} {h : Heading}
    (hh : s.heading? o = some h) : ∃ tab c a, s.connectionOf tab = .ok c ∧
      (o.begin s).2 = .waits a ∧ h.connection = c.name ∧
      ∃ request abort, a.call = .query c.id request abort ∧ h.sql = request.sql := by
  rcases heading?_cases hh with ⟨tab, sql, c, rfl, hc, rfl⟩ | ⟨tab, target, mode, c, rfl, hc, rfl⟩
  · simp only [Operation.begin, Session.query, hc]
    exact ⟨tab, c, _, hc, rfl, rfl, _, _, rfl, rfl⟩
  · simp only [Operation.begin, Session.preview, hc]
    exact ⟨tab, c, _, hc, rfl, rfl, _, _, rfl, rfl⟩

namespace Traffic

/-- **The log is truthful after every run.** -/
theorem log_truthful (u : Setup) (run : List Event) : Truthful u run where
  log := by
    rw [(logged_after u run).log]
    exact QueryLog.entries_foldl_push ..
  once := (List.nodup_append.mp (numbered_after u run).once).2.1
  query := by
    intro early tab sql c hsuf hc x hx htask
    have hhead := heading?_of_suffix (u := u) hsuf
    simp only [Session.heading?, hc, ← htask] at hhead
    have htold := (logged_after u run).told x hx
    unfold Told at htold
    rw [hhead] at htold
    obtain ⟨entry, hrec⟩ := Option.isSome_iff_exists.mp (htold rfl)
    have hrec' := hrec
    unfold record? at hrec'
    rw [hhead] at hrec'
    rcases Heading.record?_cases hrec' with ⟨_, outcome, said, hres, hsaid, rfl⟩ | ⟨ho, _⟩
    · exact ⟨outcome, said, hres, hsaid, hrec⟩
    · cases ho
  preview := by
    intro early tab target mode hsuf x hx htask set hset
    have hhead := heading?_of_suffix (u := u) hsuf
    rw [← htask] at hhead
    cases hc : (after u early).session.connectionOf tab with
    | ok c =>
      simp only [Session.heading?, hc] at hhead
      refine ⟨c, rfl, ?_⟩
      unfold record?
      rw [hhead, hset]
      rfl
    | error e =>
      -- without a connection the preview has failed
      simp only [Session.heading?, hc] at hhead
      have htold := (logged_after u run).told x hx
      unfold Told at htold
      rw [hhead] at htold
      have hasked := asked_of_suffix (u := u) hsuf
      rw [← htask] at hasked
      obtain ⟨e', he⟩ := htold hasked
      rw [hset] at he
      cases he
  only := by
    intro x hx hsome
    obtain ⟨entry, hrec⟩ := Option.isSome_iff_exists.mp hsome
    obtain ⟨early, o, h, hsuf, htask, hh, hrec⟩ := exists_heading hrec
    refine ⟨early, o, hsuf, htask, ?_⟩
    rcases Session.heading?_cases hh with
      ⟨tab, sql, c, rfl, hc, rfl⟩ | ⟨tab, target, mode, c, rfl, _, rfl⟩
    · rcases Heading.record?_cases hrec with ⟨_, outcome, _, hres, _⟩ | ⟨ho, _⟩
      · exact .inl ⟨tab, sql, c, outcome, rfl, hc, hres⟩
      · cases ho
    · rcases Heading.record?_cases hrec with ⟨ho, _⟩ | ⟨_, set, hres, _⟩
      · cases ho
      · exact .inr ⟨tab, target, mode, set, rfl, hres⟩
  sent := by
    intro early o h hsuf hh
    obtain ⟨tab, c, a, hc, hwait, hname, request, abort, hcall, hsql⟩ :=
      Session.call_of_heading? hh
    refine ⟨tab, c, request, abort, hc, ?_, hsql, hname⟩
    have hcalls := calls_goOn { after u early with tasks := (after u early).tasks + 1 }
      ((after u early).tasks + 1) (o.begin (after u early).session)
    rw [hwait, Progress.awaits, List.map_singleton, hcall] at hcalls
    exact hcalls

end Traffic

end QueryDesk
