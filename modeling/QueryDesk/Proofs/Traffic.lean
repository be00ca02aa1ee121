import Mathlib.Data.List.Perm.Basic
import QueryDesk.Session.Desk

/-!
# Traffic between a session and its server

At a `Desk` an operation goes on at once unless a gate holds its call.  Here a call may stay out for
as long as it likes, and the calls that are out are answered in any order:

* `Operation`, `Deed`   what is asked of a session, with calls of the server and without;
* `Cue`                 a change in the script of the server;
* `Traffic`             a session, its server, and the operations whose calls are out;
* `Traffic.Event`       what can happen next, `Traffic.step` what comes of it;
* `Traffic.after`       the traffic after a run, the list of its events, the LAST one first;
* `Kept.after`          what every stretch of an operation keeps holds after every run.

That a run of a `Desk` is such a run is shown in `QueryDesk.Proofs.DeskTraffic`.
-/

namespace QueryDesk

/-! ## what is asked of a session -/

inductive Operation where
  | openWorksheet (name : String) (params : ConnectionParams)
  | openConnection (w : WorksheetId) (params : ConnectionParams)
  | closeWorksheet (w : WorksheetId)
  | addTab (w : WorksheetId) (name : Option String)
  | deleteTab (tab : TabId)
  | preview (tab : TabId) (target : String) (mode : Preview)
  | query (tab : TabId) (sql : String)
  | stop (tab : TabId)
  | cloneConnection (source : Connection) (tab : TabId)
  | release (c : ConnectionId)
  | refreshDatabase (c : ConnectionId)

/-- an operation up to its first call, or its end -/
def Operation.begin : Operation → Session → Session.Step
  | openWorksheet name params, s => s.openWorksheet name params
  | openConnection w params, s => s.openConnection w params
  | closeWorksheet w, s => s.closeWorksheet w
  | addTab w name, s => s.addTab w name
  | deleteTab tab, s => s.deleteTab tab
  | preview tab target mode, s => s.preview tab target mode
  | query tab sql, s => s.query tab sql
  | stop tab, s => s.stop tab
  | cloneConnection source tab, s => s.cloneConnection source tab
  | release c, s => s.release c
  | refreshDatabase c, s => s.refreshDatabase c

/-- what is done without the server -/
inductive Deed where
  | createWorksheet (name : String)
  | refreshLastTab (tab : TabId)
  | clearPreviews (tab : TabId)
  | edit (tab : TabId) (e : Editor)
  | bindFile (tab : TabId) (path : String)
  | drainNotices

def Deed.apply : Deed → Session → Session
  | createWorksheet name, s => (s.createWorksheet name).2
  | refreshLastTab tab, s =>
    match s.refreshLastTab tab with
    | .ok s' => s'
    | .error _ => s
  | clearPreviews tab, s => s.clearPreviews tab
  | edit tab e, s => s.mapTabs (·.edit tab e)
  | bindFile tab path, s => s.mapTabs (·.bindFile tab path)
  | drainNotices, s => { s with notices := s.notices.drain.2 }

inductive Cue where
  | reply (sql : String) (reply : Except ConsoleError ResultSet)
  | hold (sql : String)
  | holdClone
  | failClone (on : Bool)
  | failRelease (on : Bool)
  | spareRelease (gate : Gate)

def Cue.apply : Cue → ScriptedServer → ScriptedServer
  | reply sql r, v => v.script sql r
  | hold sql, v => v.hold sql
  | holdClone, v => v.holdClone
  | failClone on, v => { v with failClone := on }
  | failRelease on, v => { v with failRelease := on }
  | spareRelease gate, v => v.spareRelease gate

/-! ## calls that are out -/

/-- the call that an operation waits for -/
def Progress.awaits : Progress → List Await
  | .waits a => [a]
  | .ends _ => []

/-- an operation whose call is out, and the gate that the call met -/
structure Pending where
  task : Nat
  await : Await
  gate : Option Gate

structure Traffic where
  session : Session
  server : ScriptedServer
  pending : List Pending
  tasks : Nat
  /-- the operations that have ended, the first one first -/
  endings : List Ending

inductive Traffic.Event where
  | begin (o : Operation)
  /-- the server answers a call; the calls that are out are counted from nought -/
  | answer (i : Nat)
  /-- a call is given up because its token was cancelled -/
  | giveUp (i : Nat)
  | deed (d : Deed)
  | cue (c : Cue)
  | pass (nanos : Int)

namespace Traffic

def awaits (t : Traffic) : List Await := t.pending.map (·.await)

/-- an operation has come to its next call, or to its end -/
def goOn (t : Traffic) (task : Nat) : Session.Step → Traffic
  | (session, .ends result) => { t with session, endings := t.endings ++ [⟨task, result⟩] }
  | (session, .waits a) =>
    let (gate, server) := t.server.receive a.call
    { t with session, server, pending := t.pending ++ [⟨task, a, gate⟩] }

/-- the call of an operation was cancelled -/
def isGivenUp (t : Traffic) (a : Await) : Bool :=
  match a.call.abort? with
  | some token => t.session.isCancelled token
  | none => false

def step (t : Traffic) : Event → Traffic
  | .begin o => { t with tasks := t.tasks + 1 }.goOn (t.tasks + 1) (o.begin t.session)
  | .answer i =>
    match t.pending[i]? with
    | none => t
    | some p =>
      let (reply, server) := t.server.reply p.await.call
      { t with server, pending := t.pending.eraseIdx i }.goOn p.task
        (t.session.resume p.await reply)
  | .giveUp i =>
    match t.pending[i]? with
    | none => t
    | some p =>
      if t.isGivenUp p.await then
        { t with pending := t.pending.eraseIdx i }.goOn p.task
          (t.session.resume p.await (.error .cancelled))
      else t
  | .deed d => { t with session := d.apply t.session }
  | .cue c => { t with server := c.apply t.server }
  | .pass nanos => { t with session := t.session.advance nanos }

/-- the traffic after events, the last one first -/
def steps (t : Traffic) : List Event → Traffic
  | [] => t
  | e :: run => (t.steps run).step e

theorem steps_append (t : Traffic) (late early : List Event) :
    t.steps (late ++ early) = (t.steps early).steps late := by
  induction late with
  | nil => rfl
  | cons e late ih =>
    show (t.steps (late ++ early)).step e = ((t.steps early).steps late).step e
    rw [ih]

end Traffic

/-- how a session is set up -/
structure Setup where
  rowLimit : UInt32
  logCapacity : Nat
  clock : Int

def Setup.session (u : Setup) : Session := Session.empty u.rowLimit u.logCapacity u.clock

namespace Traffic

/-- nothing has happened yet -/
def fresh (u : Setup) : Traffic := ⟨u.session, ScriptedServer.empty, [], 0, []⟩

/-- the traffic after a run, the last event first -/
def after (u : Setup) (run : List Event) : Traffic := (fresh u).steps run

theorem after_cons (u : Setup) (e : Event) (run : List Event) :
    after u (e :: run) = (after u run).step e := rfl

/-! ## one stretch -/

theorem session_goOn (t : Traffic) (task : Nat) (st : Session.Step) :
    (t.goOn task st).session = st.1 := by
  obtain ⟨s, p⟩ := st
  cases p <;> rfl

theorem awaits_goOn (t : Traffic) (task : Nat) (st : Session.Step) :
    (t.goOn task st).awaits = t.awaits ++ st.2.awaits := by
  obtain ⟨s, p⟩ := st
  cases p with
  | ends r => simp [goOn, awaits, Progress.awaits]
  | waits a => simp [goOn, awaits, Progress.awaits]

theorem perm_eraseIdx {t : Traffic} {i : Nat} {p : Pending} (h : t.pending[i]? = some p) :
    (p.await :: (t.pending.eraseIdx i).map (·.await)).Perm t.awaits := by
  obtain ⟨hi, rfl⟩ := List.getElem?_eq_some_iff.mp h
  exact (List.getElem_cons_eraseIdx_perm hi).map (·.await)

/-- the operation of `p` hears this reply to its call -/
inductive Hears (t : Traffic) : Event → (p : Pending) → p.await.call.Reply → Prop where
  | answer {i p} (h : t.pending[i]? = some p) :
    Hears t (.answer i) p (t.server.reply p.await.call).1
  | giveUp {i p} (h : t.pending[i]? = some p) (hup : t.isGivenUp p.await = true) :
    Hears t (.giveUp i) p (.error .cancelled)

section
variable {t : Traffic} {e : Event} {p q : Pending} {reply : p.await.call.Reply}

theorem Hears.mem (h : t.Hears e p reply) : p ∈ t.pending := by
  cases h with
  | answer h => exact List.mem_of_getElem? h
  | giveUp h _ => exact List.mem_of_getElem? h

theorem Hears.step_eq (h : t.Hears e p reply) :
    ∃ i server, t.pending[i]? = some p ∧ t.step e =
      { t with server, pending := t.pending.eraseIdx i }.goOn p.task
        (t.session.resume p.await reply) := by
  cases h with
  | @answer i _ h =>
    exact ⟨i, (t.server.reply p.await.call).2, h, by simp only [step, h]⟩
  | @giveUp i _ h hup =>
    exact ⟨i, t.server, h, by simp only [step, h, hup, if_true]⟩

theorem Hears.session (h : t.Hears e p reply) :
    (t.step e).session = (t.session.resume p.await reply).1 := by
  obtain ⟨i, server, _, he⟩ := h.step_eq
  rw [he, session_goOn]

theorem session_begin (t : Traffic) (o : Operation) :
    (t.step (.begin o)).session = (o.begin t.session).1 := session_goOn ..

theorem mem_goOn {task : Nat} {st : Session.Step} (h : q ∈ (t.goOn task st).pending) :
    q ∈ t.pending ∨ (q.task = task ∧ st.2 = .waits q.await) := by
  obtain ⟨s, p⟩ := st
  cases p with
  | ends r => exact .inl h
  | waits a =>
    rcases List.mem_append.mp h with h | h
    · exact .inl h
    · rw [List.mem_singleton.mp h]
      exact .inr ⟨rfl, rfl⟩

theorem mem_endings_goOn {task : Nat} {st : Session.Step} {x : Ending}
    (h : x ∈ (t.goOn task st).endings) :
    x ∈ t.endings ∨ (x.task = task ∧ st.2 = .ends x.result) := by
  obtain ⟨s, p⟩ := st
  cases p with
  | waits a => exact .inl h
  | ends r =>
    rcases List.mem_append.mp h with h | h
    · exact .inl h
    · rw [List.mem_singleton.mp h]
      exact .inr ⟨rfl, rfl⟩

end

/-- what an event may be: an operation is begun, one hears a reply, or no operation goes on -/
inductive Happens (t : Traffic) : Event → Prop where
  | begin (o : Operation) : Happens t (.begin o)
  | hears {e p reply} (h : t.Hears e p reply) : Happens t e
  | deed (d : Deed) : Happens t (.deed d)
  | idle {e} (clock : Int) (hs : (t.step e).session = { t.session with clock })
    (hp : (t.step e).pending = t.pending) (he : (t.step e).endings = t.endings)
    (hb : ∀ o, e ≠ .begin o) (hd : ∀ d, e ≠ .deed d) : Happens t e

theorem happens (t : Traffic) (e : Event) : t.Happens e := by
  have idle : ∀ {e}, t.step e = t → (∀ o, e ≠ .begin o) → (∀ d, e ≠ .deed d) → t.Happens e := by
    intro e he hb hd
    exact .idle t.session.clock (by rw [he]) (by rw [he]) (by rw [he]) hb hd
  cases e with
  | begin o => exact .begin o
  | answer i =>
    cases hp : t.pending[i]? with
    | none => exact idle (by simp only [step, hp]) nofun nofun
    | some p => exact .hears (.answer hp)
  | giveUp i =>
    cases hp : t.pending[i]? with
    | none => exact idle (by simp only [step, hp]) nofun nofun
    | some p =>
      cases hup : t.isGivenUp p.await with
      | false => exact idle (by simp [step, hp, hup]) nofun nofun
      | true => exact .hears (.giveUp hp hup)
  | deed d => exact .deed d
  | cue c => exact .idle t.session.clock rfl rfl rfl nofun nofun
  | pass nanos => exact .idle (t.session.clock + nanos) rfl rfl rfl nofun nofun

end Traffic

/-! ## what is kept -/

/-- `P`, of a session and the calls that are out, is kept by whatever can happen, when only allowed
operations are begun; the server may answer anything -/
structure Kept (allowed : Operation → Prop) (P : Session → List Await → Prop) : Prop where
  perm : ∀ {s as bs}, as.Perm bs → P s as → P s bs
  begin : ∀ {s as} (o : Operation), allowed o → P s as →
    P (o.begin s).1 ((o.begin s).2.awaits ++ as)
  resume : ∀ {s as} (a : Await) (reply : a.call.Reply), P s (a :: as) →
    P (s.resume a reply).1 ((s.resume a reply).2.awaits ++ as)
  deed : ∀ {s as} (d : Deed), P s as → P (d.apply s) as
  pass : ∀ {s as} (nanos : Int), P s as → P (s.advance nanos) as

namespace Kept
variable {allowed : Operation → Prop} {P : Session → List Await → Prop}

theorem goOn (h : Kept allowed P) (t : Traffic) (task : Nat) (st : Session.Step)
    (hst : P st.1 (st.2.awaits ++ t.awaits)) :
    P (t.goOn task st).session (t.goOn task st).awaits := by
  rw [Traffic.session_goOn, Traffic.awaits_goOn]
  exact h.perm List.perm_append_comm hst

theorem step (h : Kept allowed P) {t : Traffic} {e : Traffic.Event}
    (he : ∀ o, e = .begin o → allowed o) (ht : P t.session t.awaits) :
    P (t.step e).session (t.step e).awaits := by
  cases e with
  | begin o => exact h.goOn _ _ _ (h.begin o (he o rfl) ht)
  | answer i =>
    simp only [Traffic.step]
    split
    · exact ht
    · next p hp =>
      exact h.goOn _ _ _ (h.resume p.await _ (h.perm (Traffic.perm_eraseIdx hp).symm ht))
  | giveUp i =>
    simp only [Traffic.step]
    split
    · exact ht
    · next p hp =>
      split
      · exact h.goOn _ _ _ (h.resume p.await _ (h.perm (Traffic.perm_eraseIdx hp).symm ht))
      · exact ht
  | deed d => exact h.deed d ht
  | cue c => exact ht
  | pass nanos => exact h.pass nanos ht

/-- **What every stretch keeps holds after every run.** -/
theorem after (h : Kept allowed P) {u : Setup} (h0 : P u.session []) {run : List Traffic.Event}
    (hrun : ∀ o, .begin o ∈ run → allowed o) :
    P (Traffic.after u run).session (Traffic.after u run).awaits := by
  induction run with
  | nil => exact h0
  | cons e run ih =>
    have hrest := ih fun o ho => hrun o (List.mem_cons_of_mem _ ho)
    exact h.step (fun o ho => hrun o (ho ▸ List.mem_cons_self)) hrest

end Kept

end QueryDesk
