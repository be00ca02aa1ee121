import QueryDesk.Proofs.Traffic

/-!
# Calls that are answered at once

The scripted server holds copies and statements only.  A connection that is asked for, and one that
is given back, are answered before anything else can happen.

* `Call.isPrompt`         such a call;
* `Traffic.Prompt t e`    if a prompt call is out, the event answers it;
* `Traffic.AtRest`        no prompt call is out, as it is after every step at a `Desk`;
* `Traffic.Throughout`    what holds of every event of a run, in the traffic that it meets;
* `Regime`                what is claimed at rest, while a prompt call is out, and of each call
  when it is made;
* `Regime.Kept`           a regime that is kept by every stretch of an operation.

**`Regime.Kept.after`**: a regime that is kept by every stretch stands after every prompt run, and
every call of the run was made as it claims.
-/

namespace QueryDesk

def Call.isPrompt : Call → Bool
  | connect _ | release _ => true
  | clone _ | query .. => false

def Await.isPrompt (a : Await) : Bool := a.call.isPrompt

namespace Traffic

/-- the call that the event answers -/
def Event.answered? : Event → Option Nat
  | .answer i => some i
  | _ => none

/-- if a prompt call is out, the event answers it -/
def Prompt (t : Traffic) (e : Event) : Prop :=
  ∀ i : Fin t.awaits.length, t.awaits[i].isPrompt = true → e.answered? = some i.val

instance (t : Traffic) (e : Event) : Decidable (t.Prompt e) :=
  inferInstanceAs (Decidable (∀ _ : Fin t.awaits.length, _ → _))

/-- no prompt call is out -/
def AtRest (t : Traffic) : Prop := ∀ a ∈ t.awaits, a.isPrompt = false

instance (t : Traffic) : Decidable t.AtRest :=
  inferInstanceAs (Decidable (∀ a ∈ t.awaits, _))

/-- `P` holds of every event of the run, in the traffic that it meets -/
def Throughout (t : Traffic) (P : Traffic → Event → Prop) : List Event → Prop
  | [] => True
  | e :: run => P (t.steps run) e ∧ t.Throughout P run

instance decidableThroughout (t : Traffic) (P : Traffic → Event → Prop)
    [∀ t e, Decidable (P t e)] : ∀ run, Decidable (t.Throughout P run)
  | [] => isTrue trivial
  | e :: run =>
    have := decidableThroughout t P run
    inferInstanceAs (Decidable (P (t.steps run) e ∧ t.Throughout P run))

section
variable {t : Traffic} {P : Traffic → Event → Prop}

theorem throughout_append {late early : List Event} :
    t.Throughout P (late ++ early) ↔
      t.Throughout P early ∧ (t.steps early).Throughout P late := by
  induction late with
  | nil => exact ⟨fun h => ⟨h, trivial⟩, fun h => h.1⟩
  | cons e late ih =>
    show P (t.steps (late ++ early)) e ∧ t.Throughout P (late ++ early) ↔
      _ ∧ P ((t.steps early).steps late) e ∧ (t.steps early).Throughout P late
    rw [ih, steps_append]
    exact and_left_comm

theorem Throughout.of_suffix {early run : List Event} (h : t.Throughout P run)
    (hsuf : early <:+ run) : t.Throughout P early := by
  obtain ⟨late, rfl⟩ := hsuf
  exact (throughout_append.mp h).1

theorem Throughout.of_forall {run : List Event}
    (h : ∀ early e, e :: early <:+ run → P (t.steps early) e) : t.Throughout P run := by
  induction run with
  | nil => trivial
  | cons e run ih =>
    exact ⟨h run e (List.suffix_refl _),
      ih fun early e' hsuf => h early e' (hsuf.trans (List.suffix_cons e run))⟩

end

/-! ## prompt events -/

section
variable {t : Traffic} {e : Event} {i : Nat} {p : Pending}

/-- nothing prompt is out, or it is what the event answers -/
theorem Prompt.cases (h : t.Prompt e) :
    t.AtRest ∨ ∃ i p, e = .answer i ∧ t.pending[i]? = some p ∧ p.await.isPrompt = true := by
  by_cases hrest : t.AtRest
  · exact .inl hrest
  · obtain ⟨a, ha, hprompt⟩ : ∃ a ∈ t.awaits, a.isPrompt = true := by
      simpa [AtRest] using hrest
    obtain ⟨p, hp, rfl⟩ := List.mem_map.mp ha
    obtain ⟨i, hi, rfl⟩ := List.mem_iff_getElem.mp hp
    have hlen : i < t.awaits.length := by simpa [awaits] using hi
    have hans := h ⟨i, hlen⟩ (by simpa [awaits] using hprompt)
    cases e with
    | answer j =>
      cases hans
      exact .inr ⟨i, _, rfl, List.getElem?_eq_getElem hi, hprompt⟩
    | _ => cases hans

theorem Prompt.atRest (h : t.Prompt e) (he : e.answered? = none) : t.AtRest := by
  rcases h.cases with hrest | ⟨i, _, rfl, _, _⟩
  · exact hrest
  · cases he

end

end Traffic

/-! ## regimes -/

/-- what is claimed of a session and its server: at rest, while the prompt call of an operation is
out beside others, and of a call when it comes to the server -/
structure Regime where
  rest : Session → ScriptedServer → List Await → Prop
  out : Session → ScriptedServer → Await → List Await → Prop
  made : ScriptedServer → Call → Prop

/-- how a call is answered: by the server, or because its token was cancelled -/
inductive Await.Answered (v : ScriptedServer) (a : Await) :
    a.call.Reply → ScriptedServer → Prop where
  | server : Answered v a (v.reply a.call).1 (v.reply a.call).2
  | cancelled (h : a.call.abort?.isSome = true) : Answered v a (.error .cancelled) v

namespace Regime

/-- the call of `a` is out beside the calls of `as` -/
def During (r : Regime) (s : Session) (v : ScriptedServer) (a : Await) (as : List Await) : Prop :=
  if a.isPrompt then r.out s v a as else r.rest s v (a :: as)

/-- a stretch leads to the end of an operation, or to its next call -/
def Settles (r : Regime) (v : ScriptedServer) (as : List Await) : Session.Step → Prop
  | (s, .ends _) => r.rest s v as
  | (s, .waits a) => r.made v a.call ∧ r.During s (v.receive a.call).2 a as

/-- every stretch keeps the regime, as long as what happens is allowed and what is known holds -/
structure Kept (known : Session → List Await → Prop) (allowed : Session → Traffic.Event → Prop)
    (r : Regime) : Prop where
  known_perm : ∀ {s as bs}, as.Perm bs → known s as → known s bs
  rest_perm : ∀ {s v as bs}, as.Perm bs → r.rest s v as → r.rest s v bs
  out_perm : ∀ {s v a as bs}, as.Perm bs → r.out s v a as → r.out s v a bs
  begin : ∀ {s v as} (o : Operation), known s as → allowed s (.begin o) → r.rest s v as →
    r.Settles v as (o.begin s)
  resume : ∀ {s v v' as} (a : Await) (reply : a.call.Reply), known s (a :: as) →
    a.Answered v reply v' → r.During s v a as → r.Settles v' as (s.resume a reply)
  deed : ∀ {s v as} (d : Deed), known s as → allowed s (.deed d) → r.rest s v as →
    r.rest (d.apply s) v as
  cue : ∀ {s v as} (c : Cue), r.rest s v as → r.rest s (c.apply v) as
  pass : ∀ {s v as} (nanos : Int), r.rest s v as → r.rest (s.advance nanos) v as

/-- the regime stands in a traffic in which at most one prompt call is out -/
def Stands (r : Regime) (t : Traffic) : Prop :=
  (t.AtRest ∧ r.rest t.session t.server t.awaits) ∨
  ∃ a as, t.awaits.Perm (a :: as) ∧ a.isPrompt = true ∧ (∀ b ∈ as, b.isPrompt = false) ∧
    r.out t.session t.server a as

end Regime

/-! ## calls that are made -/

namespace ScriptedServer

theorem calls_receive (v : ScriptedServer) (c : Call) :
    (v.receive c).2.calls = v.calls ++ [c] := by
  unfold receive
  dsimp only
  split
  · rfl
  · split <;> rfl

theorem calls_reply (v : ScriptedServer) (c : Call) : (v.reply c).2.calls = v.calls := by
  cases c with
  | connect params => rfl
  | clone id =>
    cases hfail : v.failClone with
    | true => simp [reply, hfail]
    | false => simp [reply, hfail, newConnection]
  | query id request abort => rfl
  | release id => rfl

theorem calls_cue (v : ScriptedServer) (c : Cue) : (c.apply v).calls = v.calls := by
  cases c with
  | spareRelease gate =>
    show (v.spareRelease gate).calls = v.calls
    unfold spareRelease
    split <;> rfl
  | _ => rfl

end ScriptedServer

namespace Traffic

/-- the server when the reply of the event has come -/
def replied (t : Traffic) : Event → ScriptedServer
  | .answer i =>
    match t.pending[i]? with
    | some p => (t.server.reply p.await.call).2
    | none => t.server
  | _ => t.server

/-- the operation that goes on in the event makes this call -/
def Makes (t : Traffic) (e : Event) (c : Call) : Prop :=
  (t.step e).server.calls = t.server.calls ++ [c]

theorem calls_replied (t : Traffic) (e : Event) : (t.replied e).calls = t.server.calls := by
  cases e with
  | answer i =>
    simp only [replied]
    split
    · exact t.server.calls_reply _
    · rfl
  | _ => rfl

theorem calls_goOn (t : Traffic) (task : Nat) (st : Session.Step) :
    (t.goOn task st).server.calls = t.server.calls ++ st.2.awaits.map (·.call) := by
  obtain ⟨s, p⟩ := st
  cases p with
  | ends result => simp [goOn, Progress.awaits]
  | waits a => simpa [goOn, Progress.awaits] using t.server.calls_receive a.call

/-- an operation that hears a reply goes on, with the server that gave it -/
theorem Hears.goesOn {t : Traffic} {e : Event} {p : Pending} {reply : p.await.call.Reply}
    (h : t.Hears e p reply) :
    ∃ i, t.pending[i]? = some p ∧ (e = .answer i ∨ e.answered? = none) ∧
      p.await.Answered t.server reply (t.replied e) ∧
      t.step e = { t with server := t.replied e, pending := t.pending.eraseIdx i }.goOn p.task
        (t.session.resume p.await reply) := by
  cases h with
  | @answer i _ h =>
    have hs : t.replied (.answer i) = (t.server.reply p.await.call).2 := by
      simp only [replied, h]
    rw [hs]
    exact ⟨i, h, .inl rfl, .server, by simp only [step, h]⟩
  | @giveUp i _ h hup =>
    have habort : p.await.call.abort?.isSome = true := by
      unfold isGivenUp at hup
      split at hup
      · next ha => rw [ha]; rfl
      · cases hup
    exact ⟨i, h, .inr rfl, .cancelled habort, by simp [step, h, hup, replied]⟩

end Traffic

/-! ## prompt runs -/

namespace Regime
variable {known : Session → List Await → Prop} {allowed : Session → Traffic.Event → Prop}
  {r : Regime} {t : Traffic} {e : Traffic.Event}

theorem Stands.goOn (h : r.Kept known allowed) (hrest : t.AtRest) (task : Nat) {st : Session.Step}
    (hst : r.Settles t.server t.awaits st) :
    r.Stands (t.goOn task st) ∧ ∀ c ∈ st.2.awaits.map (·.call), r.made t.server c := by
  obtain ⟨s, p⟩ := st
  cases p with
  | ends result =>
    refine ⟨.inl ⟨hrest, hst⟩, fun c hc => ?_⟩
    cases hc
  | waits a =>
    obtain ⟨hmade, hst⟩ := hst
    have hperm : (t.goOn task (s, .waits a)).awaits.Perm (a :: t.awaits) := by
      rw [Traffic.awaits_goOn]
      exact List.perm_append_comm
    unfold During at hst
    -- its call is the prompt one, or waits beside the others
    refine ⟨?_, fun c hc => List.mem_singleton.mp hc ▸ hmade⟩
    split at hst
    · next hprompt => exact .inr ⟨a, t.awaits, hperm, hprompt, hrest, hst⟩
    · next hheld =>
      refine .inl ⟨fun b hb => ?_, h.rest_perm hperm.symm hst⟩
      rcases List.mem_cons.mp (hperm.mem_iff.mp hb) with rfl | hb
      · exact Bool.eq_false_iff.mpr hheld
      · exact hrest b hb

/-- the operation that goes on in a prompt event, and the others, which wait at gates -/
theorem Stands.during (h : r.Kept known allowed) (ht : r.Stands t) (hp : t.Prompt e) {i : Nat}
    {p : Pending} (hi : t.pending[i]? = some p) (he : e = .answer i ∨ t.AtRest) :
    ({ t with pending := t.pending.eraseIdx i } : Traffic).AtRest ∧
      r.During t.session t.server p.await ((t.pending.eraseIdx i).map (·.await)) := by
  have hperm := Traffic.perm_eraseIdx hi
  have of_rest : t.AtRest → ({ t with pending := t.pending.eraseIdx i } : Traffic).AtRest ∧
      r.During t.session t.server p.await ((t.pending.eraseIdx i).map (·.await)) := by
    intro hrest
    refine ⟨fun b hb => hrest b (hperm.subset (List.mem_cons_of_mem _ hb)), ?_⟩
    have hheld := hrest p.await (hperm.subset List.mem_cons_self)
    rcases ht with ⟨_, hr⟩ | ⟨a, as, has, hprompt, _, _⟩
    · unfold During
      rw [if_neg (by simp [hheld])]
      exact h.rest_perm hperm.symm hr
    · have hno := hrest a (has.mem_iff.mpr List.mem_cons_self)
      rw [hprompt] at hno
      cases hno
  rcases he with rfl | hrest
  · rcases hp.cases with hrest | ⟨j, q, hj, hq, hprompt⟩
    · exact of_rest hrest
    · cases hj
      rw [hi] at hq
      cases hq
      rcases ht with ⟨hrest, _⟩ | ⟨a, as, has, hprompt', hheld, hout⟩
      · exact of_rest hrest
      · -- the call that is answered is the prompt one, for no other is prompt
        have hmem : p.await ∈ a :: as := has.subset (hperm.subset List.mem_cons_self)
        have hpa : p.await = a := by
          rcases List.mem_cons.mp hmem with heq | hmem
          · exact heq
          · rw [hheld p.await hmem] at hprompt
            cases hprompt
        rw [hpa] at hperm ⊢
        have has' : ((t.pending.eraseIdx i).map (·.await)).Perm as := (hperm.trans has).cons_inv
        refine ⟨fun b hb => hheld b (has'.subset hb), ?_⟩
        unfold During
        rw [if_pos hprompt']
        exact h.out_perm has'.symm hout
  · exact of_rest hrest

theorem Stands.rest (ht : r.Stands t) (hrest : t.AtRest) :
    r.rest t.session t.server t.awaits := by
  rcases ht with ⟨_, hr⟩ | ⟨a, as, has, hprompt, _, _⟩
  · exact hr
  · have hno := hrest a (has.mem_iff.mpr List.mem_cons_self)
    rw [hprompt] at hno
    cases hno

/-- the regime stands after the event, and the call of the event was made as it claims -/
def StandsAfter (r : Regime) (t : Traffic) (e : Traffic.Event) : Prop :=
  r.Stands (t.step e) ∧ ∀ c, t.Makes e c → r.made (t.replied e) c

theorem StandsAfter.of_silent (h : r.Stands (t.step e))
    (hs : (t.step e).server.calls = t.server.calls) : r.StandsAfter t e := by
  refine ⟨h, fun c hc => ?_⟩
  have hlen := congrArg List.length (hs.symm.trans hc)
  simp at hlen

/-- an event in which an operation goes on, while no prompt call of another is out -/
theorem StandsAfter.of_goOn (h : r.Kept known allowed) (t₁ : Traffic) {task : Nat}
    {st : Session.Step} (hstep : t.step e = t₁.goOn task st) (hserver : t₁.server = t.replied e)
    (hrest : t₁.AtRest) (hst : r.Settles t₁.server t₁.awaits st) : r.StandsAfter t e := by
  obtain ⟨hstands, hmade⟩ := Stands.goOn h hrest task hst
  refine ⟨hstep ▸ hstands, fun c hc => ?_⟩
  unfold Traffic.Makes at hc
  rw [hstep, Traffic.calls_goOn, hserver, Traffic.calls_replied] at hc
  rw [hserver] at hmade
  refine hmade c ?_
  rw [List.append_cancel_left hc]
  exact List.mem_singleton_self c

theorem StandsAfter.of_hears (h : r.Kept known allowed) (ht : r.Stands t)
    (hk : known t.session t.awaits) (hp : t.Prompt e) {p : Pending} {reply : p.await.call.Reply}
    (hh : t.Hears e p reply) : r.StandsAfter t e := by
  obtain ⟨i, hi, he, hans, hstep⟩ := hh.goesOn
  obtain ⟨hrest, hduring⟩ := ht.during h hp hi (he.imp_right hp.atRest)
  have hk' := h.known_perm (Traffic.perm_eraseIdx hi).symm hk
  exact .of_goOn h _ hstep rfl hrest (h.resume p.await reply hk' hans hduring)

theorem Kept.step (h : r.Kept known allowed) (ht : r.Stands t) (hk : known t.session t.awaits)
    (hp : t.Prompt e) (ha : allowed t.session e) : r.StandsAfter t e := by
  have same : t.step e = t → r.StandsAfter t e := fun he =>
    .of_silent (by rw [he]; exact ht) (by rw [he])
  cases e with
  | begin o =>
    have hrest := hp.atRest rfl
    exact .of_goOn h { t with tasks := t.tasks + 1 } rfl rfl hrest
      (h.begin o hk ha (ht.rest hrest))
  | answer i =>
    cases hi : t.pending[i]? with
    | none => exact same (by simp only [Traffic.step, hi])
    | some p => exact .of_hears h ht hk hp (.answer hi)
  | giveUp i =>
    cases hi : t.pending[i]? with
    | none => exact same (by simp only [Traffic.step, hi])
    | some p =>
      cases hup : t.isGivenUp p.await with
      | false => exact same (by simp [Traffic.step, hi, hup])
      | true => exact .of_hears h ht hk hp (.giveUp hi hup)
  | deed d =>
    have hrest := hp.atRest rfl
    exact .of_silent (.inl ⟨hrest, h.deed d hk ha (ht.rest hrest)⟩) rfl
  | cue c =>
    have hrest := hp.atRest rfl
    exact .of_silent (.inl ⟨hrest, h.cue c (ht.rest hrest)⟩) (t.server.calls_cue c)
  | pass nanos =>
    have hrest := hp.atRest rfl
    exact .of_silent (.inl ⟨hrest, h.pass nanos (ht.rest hrest)⟩) rfl

/-- **What every stretch keeps stands after every prompt run, and every call of the run was made as
the regime claims.** -/
theorem Kept.after (h : r.Kept known allowed) {u : Setup}
    (h0 : r.rest u.session ScriptedServer.empty []) {run : List Traffic.Event}
    (hp : (Traffic.fresh u).Throughout Traffic.Prompt run)
    (ha : (Traffic.fresh u).Throughout (fun t => allowed t.session) run)
    (hk : ∀ early, early <:+ run →
      known (Traffic.after u early).session (Traffic.after u early).awaits) :
    r.Stands (Traffic.after u run) ∧
      (Traffic.fresh u).Throughout (fun t e => ∀ c, t.Makes e c → r.made (t.replied e) c) run := by
  induction run with
  | nil =>
    have hrest : (Traffic.after u []).AtRest := by
      intro a ha
      cases ha
    exact ⟨.inl ⟨hrest, h0⟩, trivial⟩
  | cons e run ih =>
    obtain ⟨hstands, hmade⟩ :=
      ih hp.2 ha.2 fun early he => hk early (he.trans (List.suffix_cons e run))
    obtain ⟨hstep, hcall⟩ := h.step hstands (hk run (List.suffix_cons e run)) hp.1 ha.1
    exact ⟨hstep, hcall, hmade⟩

end Regime

end QueryDesk
