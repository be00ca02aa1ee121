import QueryDesk.Proofs.Homes

/-!
# A server that may answer anything

`Traffic` has the scripted server at its other end.  Here the reply to a call comes with the event
in which the call is answered, so a server may agree to every call, or refuse it.

* `Answered`               a call and its reply;
* `Dialogue`               a session, the operations whose calls are out, and the answered calls;
* `Dialogue.after`         the dialogue after a run, the list of its events, the LAST one first;
* `handed`, `givenBack`    the connections that the server has handed out, and those that calls
  have given back: the server has `accepted` it, or `refused` it, or its answer is out;
* `linked`                 the links of all connections, on record or on the way there;
* `exists_dialogue`        what can happen with the scripted server can happen here.

**`linked_subperm`**: every connection that is linked was handed out, and none is linked more often
than that.
-/

namespace QueryDesk

structure Answered where
  call : Call
  reply : call.Reply

namespace Answered

def brought? (y : Answered) : Option ConnectionId := y.call.brings? y.reply

/-- the connection that the server has agreed to release -/
def accepted? : Answered → Option ConnectionId
  | ⟨.release id, .ok _⟩ => some id
  | _ => none

/-- the connection that the server has refused to release -/
def refused? : Answered → Option ConnectionId
  | ⟨.release id, .error _⟩ => some id
  | _ => none

end Answered

/-- the link that a reply brings is of the connection that it brings -/
theorem Await.gains?_snd (a : Await) (reply : a.call.Reply) :
    (a.gains? reply).map (·.2) = a.call.brings? reply := by
  cases a <;> cases reply <;> rfl

structure Dialogue where
  session : Session
  /-- the operations whose calls are out -/
  awaits : List Await
  /-- the first one first -/
  answered : List Answered

inductive Dialogue.Event where
  | begin (o : Operation)
  /-- the calls that are out are counted from nought -/
  | answer (i : Nat) (server : (c : Call) → c.Reply)
  | deed (d : Deed)
  | pass (nanos : Int)

namespace Dialogue

/-- an operation has come to its next call, or to its end -/
def goOn (x : Dialogue) (st : Session.Step) : Dialogue :=
  { x with session := st.1, awaits := x.awaits ++ st.2.awaits }

/-- a call that was out is answered -/
def hear (x : Dialogue) (i : Nat) (y : Answered) : Dialogue :=
  { x with awaits := x.awaits.eraseIdx i, answered := x.answered ++ [y] }

def step (x : Dialogue) : Event → Dialogue
  | .begin o => x.goOn (o.begin x.session)
  | .answer i server =>
    match x.awaits[i]? with
    | none => x
    | some a =>
      (x.hear i ⟨a.call, server a.call⟩).goOn (x.session.resume a (server a.call))
  | .deed d => { x with session := d.apply x.session }
  | .pass nanos => { x with session := x.session.advance nanos }

/-- nothing has happened yet -/
def fresh (u : Setup) : Dialogue := ⟨u.session, [], []⟩

/-- the dialogue after a run, the last event first -/
def after (u : Setup) : List Event → Dialogue
  | [] => fresh u
  | e :: run => (after u run).step e

/-! ## connections -/

/-- all calls, answered or out -/
def calls (x : Dialogue) : List Call := x.answered.map (·.call) ++ x.awaits.map (·.call)

/-- the connections that the server has handed out, the first one first -/
def handed (x : Dialogue) : List ConnectionId := x.answered.filterMap Answered.brought?

/-- the connections that calls have given back, whatever the server says -/
def givenBack (x : Dialogue) : List ConnectionId := released x.calls

/-- those that the server has agreed to release -/
def accepted (x : Dialogue) : List ConnectionId := x.answered.filterMap Answered.accepted?

/-- those that it has refused to release -/
def refused (x : Dialogue) : List ConnectionId := x.answered.filterMap Answered.refused?

/-- the links of all connections, on record or on the way there -/
def linked (x : Dialogue) : List (Binding × ConnectionId) :=
  x.session.links ++ x.awaits.flatMap Await.claims

/-- the link that the event brings -/
def gains (x : Dialogue) : Event → Option (Binding × ConnectionId)
  | .answer i server => x.awaits[i]?.bind fun a => a.gains? (server a.call)
  | _ => none

variable {x : Dialogue} {i : Nat} {a : Await} {server : (c : Call) → c.Reply} {u : Setup}
  {early run : List Event}

/-! ## one event -/

theorem step_answer (h : x.awaits[i]? = some a) : x.step (.answer i server) =
    (x.hear i ⟨a.call, server a.call⟩).goOn (x.session.resume a (server a.call)) := by
  simp only [step, h]

theorem step_answer_none (h : x.awaits[i]? = none) : x.step (.answer i server) = x := by
  simp only [step, h]

theorem perm_eraseIdx (h : x.awaits[i]? = some a) : (a :: x.awaits.eraseIdx i).Perm x.awaits := by
  obtain ⟨hi, rfl⟩ := List.getElem?_eq_some_iff.mp h
  exact List.getElem_cons_eraseIdx_perm hi

theorem handed_step (x : Dialogue) (e : Event) :
    (x.step e).handed = x.handed ++ (x.gains e).toList.map (·.2) := by
  cases e with
  | answer i server =>
    cases hi : x.awaits[i]? with
    | none => simp [step_answer_none hi, gains, hi]
    | some a =>
      rw [step_answer hi]
      unfold handed goOn hear
      rw [List.filterMap_append]
      have hsnd := a.gains?_snd (server a.call)
      cases hg : a.gains? (server a.call) <;>
        simp [gains, hi, hg, Answered.brought?, ← hsnd]
  | _ => exact (List.append_nil _).symm

theorem linked_goOn (x : Dialogue) (st : Session.Step) :
    (x.goOn st).linked.Perm (st.linked ++ x.awaits.flatMap Await.claims) := by
  unfold linked goOn Session.Step.linked
  rw [List.flatMap_append, List.append_assoc]
  exact List.perm_append_comm.append_left _

/-- the links, those of one operation apart -/
theorem linked_perm (h : x.awaits[i]? = some a) : x.linked.Perm
    (x.session.links ++ (a.claims ++ (x.awaits.eraseIdx i).flatMap Await.claims)) :=
  (((perm_eraseIdx h).flatMap_right Await.claims).append_left x.session.links).symm

theorem linked_answer_perm (h : x.awaits[i]? = some a) : (x.step (.answer i server)).linked.Perm
    ((x.session.resume a (server a.call)).linked ++
      (x.awaits.eraseIdx i).flatMap Await.claims) := by
  rw [step_answer h]
  exact linked_goOn ..

theorem linked_answer (h : x.awaits[i]? = some a) : (x.step (.answer i server)).linked.Subperm
    (x.linked ++ (a.gains? (server a.call)).toList) :=
  (linked_answer_perm h).subperm.trans ((x.session.linked_resume ..).trans
    ((linked_perm h).symm.append_right _).subperm)

/-- an event makes no link but the one that it brings -/
theorem linked_step (x : Dialogue) (e : Event) :
    (x.step e).linked.Subperm (x.linked ++ (x.gains e).toList) := by
  cases e with
  | begin o =>
    rw [show (x.gains (.begin o)).toList = [] from rfl, List.append_nil]
    exact (linked_goOn ..).subperm.trans (x.session.linked_begin o _)
  | answer i server =>
    cases hi : x.awaits[i]? with
    | none => simpa [step_answer_none hi, gains, hi] using List.Subperm.refl x.linked
    | some a => simpa [gains, hi] using linked_answer hi
  | deed d =>
    have hl := Traffic.links_deed x.session d
    unfold linked
    rw [show (x.step (.deed d)).session = d.apply x.session from rfl, hl]
    exact (List.sublist_append_left _ _).subperm
  | pass nanos => exact (List.sublist_append_left x.linked _).subperm

/-- once all calls are answered, what was given back was accepted or refused -/
theorem mem_givenBack (hrest : x.awaits = []) {id : ConnectionId} :
    id ∈ x.givenBack ↔ id ∈ x.accepted ∨ id ∈ x.refused := by
  have hcase : ∀ y : Answered, y.call.released? = some id ↔
      y.accepted? = some id ∨ y.refused? = some id := by
    rintro ⟨c, reply⟩
    cases c with
    | release other =>
      cases reply <;> simp [Call.released?, Answered.accepted?, Answered.refused?]
    | _ => simp [Call.released?, Answered.accepted?, Answered.refused?]
  unfold givenBack released calls accepted refused
  rw [hrest]
  simp only [List.map_nil, List.append_nil, List.mem_filterMap, List.mem_map]
  constructor
  · rintro ⟨_, ⟨y, hy, rfl⟩, hid⟩
    exact ((hcase y).mp hid).imp (fun h => ⟨y, hy, h⟩) fun h => ⟨y, hy, h⟩
  · rintro (⟨y, hy, hid⟩ | ⟨y, hy, hid⟩)
    · exact ⟨_, ⟨y, hy, rfl⟩, (hcase y).mpr (.inl hid)⟩
    · exact ⟨_, ⟨y, hy, rfl⟩, (hcase y).mpr (.inr hid)⟩

/-! ## runs -/

theorem handed_grows (h : early <:+ run) : (after u early).handed <+: (after u run).handed := by
  obtain ⟨late, rfl⟩ := h
  induction late with
  | nil => exact List.prefix_refl _
  | cons e late ih =>
    refine ih.trans ?_
    show _ <+: ((after u (late ++ early)).step e).handed
    rw [handed_step]
    exact List.prefix_append _ _

theorem linked_subperm (u : Setup) (run : List Event) :
    ((after u run).linked.map (·.2)).Subperm (after u run).handed := by
  induction run with
  | nil => exact List.nil_subperm
  | cons e run ih =>
    obtain ⟨l, hperm, hsub⟩ := (after u run).linked_step e
    show (((after u run).step e).linked.map (·.2)).Subperm ((after u run).step e).handed
    rw [handed_step]
    refine (hperm.map (·.2)).symm.subperm.trans ((hsub.map (·.2)).subperm.trans ?_)
    rw [List.map_append]
    exact (List.subperm_append_right _).mpr ih

/-- if no name is handed out twice, no connection is linked twice at a time -/
theorem linked_nodup (h : (after u run).handed.Nodup) : ((after u run).linked.map (·.2)).Nodup := by
  obtain ⟨l, hperm, hsub⟩ := linked_subperm u run
  exact hperm.nodup_iff.mp (h.sublist hsub)

/-- and one that is not linked any more will not be again -/
theorem not_linked_of_suffix {id : ConnectionId} (hsuf : early <:+ run)
    (hnew : (after u run).handed.Nodup) (hid : id ∈ (after u early).handed)
    (hgone : id ∉ (after u early).linked.map (·.2)) : id ∉ (after u run).linked.map (·.2) := by
  obtain ⟨late, rfl⟩ := hsuf
  induction late with
  | nil => exact hgone
  | cons e late ih =>
    have hhanded := handed_step (after u (late ++ early)) e
    obtain ⟨hold, -, hdisj⟩ := List.nodup_append.mp (hhanded ▸ hnew)
    have hid' := (handed_grows (List.suffix_append late early)).subset hid
    intro hmem
    obtain ⟨l, hl, rfl⟩ := List.mem_map.mp hmem
    have hsub := (after u (late ++ early)).linked_step e
    rcases List.mem_append.mp (hsub.subset hl) with h | h
    · exact ih hold (List.mem_map_of_mem h)
    · exact hdisj l.2 hid' l.2 (List.mem_map_of_mem h) rfl

/-! ## the scripted server -/

/-- **What can happen with the scripted server can happen here.** -/
theorem exists_dialogue (u : Setup) (run : List Traffic.Event) :
    ∃ run', (after u run').session = (Traffic.after u run).session ∧
      (after u run').awaits = (Traffic.after u run).awaits := by
  induction run with
  | nil => exact ⟨[], rfl, rfl⟩
  | cons e run ih =>
    obtain ⟨run', hs, ha⟩ := ih
    rw [Traffic.after_cons]
    generalize Traffic.after u run = t at hs ha ⊢
    cases t.happens e with
    | begin o =>
      refine ⟨.begin o :: run', ?_⟩
      show (o.begin (after u run').session).1 = _ ∧
        (after u run').awaits ++ (o.begin (after u run').session).2.awaits = _
      rw [hs, ha, t.session_begin]
      exact ⟨rfl, (Traffic.awaits_goOn { t with tasks := t.tasks + 1 } _ _).symm⟩
    | @hears _ p reply h =>
      obtain ⟨server, hserver⟩ : ∃ server : (c : Call) → c.Reply, server p.await.call = reply := by
        cases h with
        | answer _ => exact ⟨fun c => (t.server.reply c).1, rfl⟩
        | giveUp _ _ => exact ⟨fun _ => .error .cancelled, rfl⟩
      obtain ⟨i, v, hi, hstep⟩ := h.step_eq
      have hout : (after u run').awaits[i]? = some p.await := by
        rw [ha]
        simp [Traffic.awaits, hi]
      refine ⟨.answer i server :: run', ?_⟩
      show ((after u run').step (.answer i server)).session = _ ∧
        ((after u run').step (.answer i server)).awaits = _
      rw [step_answer hout, hstep, Traffic.session_goOn, Traffic.awaits_goOn, hserver, hs]
      refine ⟨rfl, ?_⟩
      show (after u run').awaits.eraseIdx i ++ _ = (t.pending.eraseIdx i).map (·.await) ++ _
      rw [ha, Traffic.awaits, List.eraseIdx_map]
    | deed d => exact ⟨.deed d :: run', congrArg d.apply hs, ha⟩
    | idle clock hclock hp =>
      have hpass : t.session.clock + (clock - t.session.clock) = clock := by omega
      refine ⟨.pass (clock - t.session.clock) :: run', ?_, ?_⟩
      · show (after u run').session.advance (clock - t.session.clock) = (t.step e).session
        rw [hs, hclock, Session.advance, hpass]
      · show (after u run').awaits = (t.step e).awaits
        rw [ha, Traffic.awaits, Traffic.awaits, hp]

end Dialogue

end QueryDesk
