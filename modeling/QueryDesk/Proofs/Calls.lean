import Mathlib.Data.List.Nodup
import QueryDesk.Proofs.Prompt

/-!
# Which connections the calls name

* `Call.connection?`, `released?`   the connection that a call names, and the one that it gives
  back;
* `Traffic.hands t e`               the connections that the server hands out in the event;
* `handedOut u run`                 those that it handed out in a run, the first one first;
* `ScriptedServer.ids`              the names that the server has given so far;
* `exists_makes`                    the event in which a call was made;
* `Hears.waits`, `Hears.ends`       an operation goes on to its next call, or to its end.
-/

namespace QueryDesk

namespace Call

def connection? : Call → Option ConnectionId
  | connect _ => none
  | clone id => some id
  | query id _ _ => some id
  | release id => some id

def released? : Call → Option ConnectionId
  | release id => some id
  | _ => none

/-- the connection that the reply brings -/
def brings? : (c : Call) → c.Reply → Option ConnectionId
  | connect _, .ok info => some (info : ConnectionInfo).id
  | clone _, .ok info => some (info : ConnectionInfo).id
  | _, _ => none

end Call

/-- the connections that were given back with these calls -/
def released (calls : List Call) : List ConnectionId := calls.filterMap Call.released?

/-! ## names that the server gives -/

/-- a number is read back from its text -/
theorem eq_of_toString_eq {m n : Nat} (h : toString m = toString n) : m = n := by
  have hdigits : Nat.toDigits 10 m = Nat.toDigits 10 n := by
    rw [← Nat.toList_repr, ← Nat.toList_repr]
    exact congrArg String.toList h
  have hread := congrArg (fun cs => Nat.ofDigitChars 10 cs 0) hdigits
  simpa [Nat.ofDigitChars_toDigits] using hread

namespace ScriptedServer

def ids (v : ScriptedServer) : List ConnectionId :=
  (List.range v.opened).map fun n => ⟨"conn-" ++ toString (n + 1)⟩

theorem nodup_ids (v : ScriptedServer) : v.ids.Nodup := by
  refine List.nodup_range.map fun m n h => ?_
  have htext : "conn-" ++ toString (m + 1) = "conn-" ++ toString (n + 1) :=
    congrArg ConnectionId.text h
  have hnum := eq_of_toString_eq ((String.append_right_inj _).mp htext)
  omega

theorem ids_of_opened {v v' : ScriptedServer} (h : v'.opened = v.opened) : v'.ids = v.ids := by
  unfold ids
  rw [h]

theorem ids_newConnection (v : ScriptedServer) :
    v.newConnection.2.ids = v.ids ++ [v.newConnection.1.id] := by
  show (List.range (v.opened + 1)).map _ = _
  rw [List.range_succ, List.map_append]
  rfl

theorem ids_receive (v : ScriptedServer) (c : Call) : (v.receive c).2.ids = v.ids := by
  refine ids_of_opened ?_
  unfold receive
  dsimp only
  split
  · rfl
  · split <;> rfl

theorem ids_cue (v : ScriptedServer) (c : Cue) : (c.apply v).ids = v.ids := by
  refine ids_of_opened ?_
  cases c with
  | spareRelease gate =>
    show (v.spareRelease gate).opened = v.opened
    unfold spareRelease
    split <;> rfl
  | _ => rfl

theorem ids_reply (v : ScriptedServer) (c : Call) :
    (v.reply c).2.ids = v.ids ++ (c.brings? (v.reply c).1).toList := by
  cases c with
  | connect params => exact v.ids_newConnection
  | clone id =>
    cases hfail : v.failClone with
    | true => simp [reply, hfail, Call.brings?]
    | false => simpa [reply, hfail, Call.brings?] using v.ids_newConnection
  | query id request abort => simp [reply, Call.brings?]
  | release id => simp [reply, Call.brings?]

end ScriptedServer

/-! ## connections that were handed out -/

namespace Traffic

def hands (t : Traffic) : Event → List ConnectionId
  | .answer i =>
    match t.pending[i]? with
    | some p => (p.await.call.brings? (t.server.reply p.await.call).1).toList
    | none => []
  | _ => []

def handedOut (u : Setup) : List Event → List ConnectionId
  | [] => []
  | e :: run => handedOut u run ++ (after u run).hands e

theorem ids_replied (t : Traffic) (e : Event) :
    (t.replied e).ids = t.server.ids ++ t.hands e := by
  cases e with
  | answer i =>
    cases hp : t.pending[i]? with
    | some p => simpa only [replied, hands, hp] using t.server.ids_reply p.await.call
    | none => simp [replied, hands, hp]
  | _ => simp [replied, hands]

theorem ids_goOn (t : Traffic) (task : Nat) (st : Session.Step) :
    (t.goOn task st).server.ids = t.server.ids := by
  obtain ⟨s, p⟩ := st
  cases p with
  | ends r => rfl
  | waits a => exact t.server.ids_receive a.call

theorem ids_step (t : Traffic) (e : Event) : (t.step e).server.ids = (t.replied e).ids := by
  cases e with
  | begin o => exact ids_goOn ..
  | answer i =>
    cases hp : t.pending[i]? with
    | some p => simpa only [step, replied, hp] using ids_goOn ..
    | none => simp only [step, replied, hp]
  | giveUp i =>
    simp only [step, replied]
    split
    · rfl
    · split
      · exact ids_goOn ..
      · rfl
  | deed d => rfl
  | cue c => exact t.server.ids_cue c
  | pass nanos => rfl

theorem handedOut_eq_ids (u : Setup) (run : List Event) :
    handedOut u run = (after u run).server.ids := by
  induction run with
  | nil => rfl
  | cons e run ih => rw [handedOut, ih, after_cons, ids_step, ids_replied]

/-! ## calls and the events that make them -/

/-- an event makes one call, or none -/
theorem calls_step (t : Traffic) (e : Event) :
    (t.step e).server.calls = t.server.calls ∨ ∃ c, t.Makes e c := by
  have goOn : ∀ (t' : Traffic) task st, t'.server.calls = t.server.calls →
      (t'.goOn task st).server.calls = t.server.calls ∨
        ∃ c, (t'.goOn task st).server.calls = t.server.calls ++ [c] := by
    intro t' task st h
    rw [calls_goOn, h]
    obtain ⟨s, p⟩ := st
    cases p with
    | ends r => exact .inl (by simp [Progress.awaits])
    | waits a => exact .inr ⟨a.call, rfl⟩
  unfold Makes
  cases e with
  | begin o => exact goOn _ _ _ rfl
  | answer i =>
    simp only [step]
    split
    · exact .inl rfl
    · exact goOn _ _ _ (t.server.calls_reply _)
  | giveUp i =>
    simp only [step]
    split
    · exact .inl rfl
    · split
      · exact goOn _ _ _ rfl
      · exact .inl rfl
  | deed d => exact .inl rfl
  | cue c => exact .inl (t.server.calls_cue c)
  | pass nanos => exact .inl rfl

/-- every call was made in an event of the run, after the calls before it -/
theorem exists_makes (u : Setup) (run : List Event) {before later : List Call} {c : Call}
    (h : (after u run).server.calls = before ++ c :: later) :
    ∃ e early, e :: early <:+ run ∧ (after u early).server.calls = before ∧
      (after u early).Makes e c := by
  induction run generalizing later with
  | nil => simp [after, fresh, steps, ScriptedServer.empty] at h
  | cons e run ih =>
    have further : ∀ {later'}, (after u run).server.calls = before ++ c :: later' →
        ∃ e' early, e' :: early <:+ e :: run ∧ (after u early).server.calls = before ∧
          (after u early).Makes e' c := by
      intro later' hrun
      obtain ⟨e', early, hsuf, hcalls⟩ := ih hrun
      exact ⟨e', early, hsuf.trans (List.suffix_cons e run), hcalls⟩
    rw [after_cons] at h
    rcases (after u run).calls_step e with hsame | ⟨c', hmakes⟩
    · exact further (hsame.symm.trans h)
    · have hmakes' := hmakes
      unfold Makes at hmakes'
      rw [hmakes'] at h
      -- the call of this event is the last one: it is `c`, or `c` came before it
      rcases List.eq_nil_or_concat later with rfl | ⟨later', c'', rfl⟩
      · obtain ⟨hbefore, hc⟩ := List.append_inj' h rfl
        cases hc
        exact ⟨e, run, List.suffix_refl _, hbefore, hmakes⟩
      · rw [List.concat_eq_append, ← List.cons_append, ← List.append_assoc] at h
        exact further (List.append_inj' h rfl).1

/-! ## how an operation goes on -/

section
variable {t : Traffic} {e : Event} {p : Pending} {reply : p.await.call.Reply}

/-- one operation hears one reply in an event -/
theorem Hears.unique (h : t.Hears e p reply) {p' : Pending} {reply' : p'.await.call.Reply}
    (h' : t.Hears e p' reply') : p = p' ∧ reply ≍ reply' := by
  cases h with
  | answer hp =>
    cases h' with
    | answer hp' =>
      cases hp.symm.trans hp'
      exact ⟨rfl, .rfl⟩
  | giveUp hp _ =>
    cases h' with
    | giveUp hp' _ =>
      cases hp.symm.trans hp'
      exact ⟨rfl, .rfl⟩

/-- an operation that hears a reply makes the call that it waits for next, if any -/
theorem Hears.calls (h : t.Hears e p reply) : (t.step e).server.calls =
    t.server.calls ++ (t.session.resume p.await reply).2.awaits.map (·.call) := by
  obtain ⟨i, _, _, _, hstep⟩ := h.goesOn
  rw [hstep, calls_goOn]
  exact congrArg (· ++ _) (t.calls_replied e)

/-- the operation that goes on with another call is pending, and none ends -/
theorem Hears.waits (h : t.Hears e p reply) {s' : Session} {a : Await}
    (hr : t.session.resume p.await reply = (s', .waits a)) :
    t.Makes e a.call ∧ (t.step e).endings = t.endings ∧
      ∃ gate, ⟨p.task, a, gate⟩ ∈ (t.step e).pending := by
  have hcalls := h.calls
  obtain ⟨i, server, _, hstep⟩ := h.step_eq
  rw [hr] at hstep hcalls
  refine ⟨hcalls, ?_⟩
  rw [hstep]
  exact ⟨rfl, _, List.mem_append_right _ (List.mem_singleton_self _)⟩

/-- the operation that ends makes no call -/
theorem Hears.ends (h : t.Hears e p reply) {s' : Session} {r : Except ConsoleError Outcome}
    (hr : t.session.resume p.await reply = (s', .ends r)) :
    (t.step e).server.calls = t.server.calls ∧ (t.step e).endings = t.endings ++ [⟨p.task, r⟩] ∧
      (t.step e).session = s' := by
  have hcalls := h.calls
  obtain ⟨i, server, _, hstep⟩ := h.step_eq
  rw [hr] at hstep hcalls
  refine ⟨hcalls.trans (List.append_nil _), ?_⟩
  rw [hstep]
  exact ⟨rfl, rfl⟩

theorem not_makes_of_calls {t : Traffic} {e : Event} {c : Call}
    (h : (t.step e).server.calls = t.server.calls) : ¬ t.Makes e c := by
  intro hm
  have hlen := congrArg List.length (h.symm.trans hm)
  simp at hlen

end

end Traffic

end QueryDesk
