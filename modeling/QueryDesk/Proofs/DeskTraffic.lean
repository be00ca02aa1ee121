import QueryDesk.Proofs.Prompt

/-!
# A desk at work is traffic

Whatever a `Desk` does, operations begun at it, gates that let go and queries given up, is a run of
`Traffic` in which the calls that meet no gate are answered at once.  Only copies and statements
meet gates, so the run is prompt, and at the desk the traffic is at rest.

* `Traffic.Leads t t'`   a prompt run leads from one traffic to the other.

**`Desk.Reached.exists_run`**: every desk that can be reached is the traffic at rest after a prompt
run.  So what holds of the traffic after every such run holds of every desk.
-/

namespace QueryDesk

/-! ## prompt runs -/

namespace Traffic

def Leads (t t' : Traffic) : Prop := ∃ run, t.steps run = t' ∧ t.Throughout Prompt run

section
variable {t t' t'' : Traffic} {e : Event}

theorem Leads.refl (t : Traffic) : t.Leads t := ⟨[], rfl, trivial⟩

theorem Leads.trans (h : t.Leads t') (h' : t'.Leads t'') : t.Leads t'' := by
  obtain ⟨early, rfl, hearly⟩ := h
  obtain ⟨late, rfl, hlate⟩ := h'
  exact ⟨late ++ early, steps_append .., throughout_append.mpr ⟨hearly, hlate⟩⟩

theorem Leads.of_step (h : t.Prompt e) (hs : t.step e = t') : t.Leads t' :=
  ⟨[e], hs, h, trivial⟩

theorem AtRest.prompt (h : t.AtRest) (e : Event) : t.Prompt e := by
  intro i hprompt
  have hno : t.awaits[i].isPrompt = false := h _ (List.getElem_mem i.isLt)
  rw [hno] at hprompt
  cases hprompt

/-- the call that came last is the only one that may be prompt -/
theorem prompt_answer_last (h : t.AtRest) (task : Nat) (s : Session) (b : Await) :
    (t.goOn task (s, .waits b)).Prompt (.answer t.pending.length) := by
  rintro ⟨i, hi⟩ hprompt
  have hawaits : (t.goOn task (s, .waits b)).awaits = t.awaits ++ [b] := awaits_goOn ..
  have hlen : i < t.awaits.length + 1 := by simpa [hawaits] using hi
  rcases Nat.lt_succ_iff_lt_or_eq.mp hlen with hlt | rfl
  · have hget : (t.goOn task (s, .waits b)).awaits[i] = t.awaits[i] := by
      simp [hawaits, List.getElem_append_left hlt]
    rw [Fin.getElem_fin, hget, h _ (List.getElem_mem hlt)] at hprompt
    cases hprompt
  · simp [Event.answered?, awaits]

end

end Traffic

def Waiting.pending (w : Waiting) : Pending := ⟨w.task, w.await, some w.gate⟩

namespace Desk

/-- the traffic at a desk at which these operations have ended -/
def traffic (d : Desk) (past : List Ending) : Traffic :=
  ⟨d.session, d.server, d.waiting.map Waiting.pending, d.tasks, past⟩

/-! ## one operation -/

section
variable {d : Desk} {task : Nat} {a b : Await} {server server' : ScriptedServer}
  {reply : a.call.Reply} {s : Session}

theorem run_ends {result : Except ConsoleError Outcome}
    (h : d.session.resume a reply = (s, .ends result)) :
    d.run task a server reply = ({ d with session := s, server }, [⟨task, result⟩]) := by
  rw [run]
  split
  · next h' => rw [h] at h'; cases h'; rfl
  · next h' => rw [h] at h'; cases h'

theorem run_held {gate : Gate} (h : d.session.resume a reply = (s, .waits b))
    (hr : server.receive b.call = (some gate, server')) :
    d.run task a server reply =
      ({ d with session := s, server := server', waiting := d.waiting ++ [⟨task, b, gate⟩] },
        []) := by
  rw [run]
  split
  · next h' => rw [h] at h'; cases h'
  · next h' =>
    rw [h] at h'
    cases h'
    rw [hr]

theorem run_free (h : d.session.resume a reply = (s, .waits b))
    (hr : server.receive b.call = (none, server')) :
    d.run task a server reply =
      { d with session := s }.run task b (server'.reply b.call).2 (server'.reply b.call).1 := by
  rw [run]
  split
  · next h' => rw [h] at h'; cases h'
  · next h' =>
    rw [h] at h'
    cases h'
    rw [hr]

/-- an operation whose call meets no gate has it answered next -/
theorem goOn_answer_last (t : Traffic) (task : Nat) {s : Session} {b : Await}
    {server : ScriptedServer} (hr : t.server.receive b.call = (none, server)) :
    (t.goOn task (s, .waits b)).step (.answer t.pending.length) =
      { t with session := s, server := (server.reply b.call).2 }.goOn task
        (s.resume b (server.reply b.call).1) := by
  have hgo : t.goOn task (s, .waits b) =
      { t with session := s, server, pending := t.pending ++ [⟨task, b, none⟩] } := by
    simp [Traffic.goOn, hr]
  have hp : (t.pending ++ [(⟨task, b, none⟩ : Pending)])[t.pending.length]? =
      some ⟨task, b, none⟩ := by simp
  have he : (t.pending ++ [(⟨task, b, none⟩ : Pending)]).eraseIdx t.pending.length = t.pending := by
    simp [List.eraseIdx_append]
  rw [hgo]
  simp only [Traffic.step, hp, he]

/-- the calls that wait at the gates of a desk are not prompt -/
def Quiet (d : Desk) : Prop := ∀ w ∈ d.waiting, w.await.isPrompt = false

theorem Quiet.atRest (h : d.Quiet) (past : List Ending) : (d.traffic past).AtRest := by
  intro a ha
  have hawaits : (d.traffic past).awaits = d.waiting.map (·.await) := by
    simp [traffic, Traffic.awaits, Waiting.pending]
  rw [hawaits] at ha
  obtain ⟨w, hw, rfl⟩ := List.mem_map.mp ha
  exact h w hw

/-- only a copy or a statement meets a gate -/
theorem not_isPrompt_of_receive {gate : Gate} (h : server.receive b.call = (some gate, server')) :
    b.isPrompt = false := by
  unfold Await.isPrompt
  cases hb : b.call with
  | connect params =>
    rw [hb] at h
    cases h
  | release id =>
    rw [hb] at h
    cases h
  | clone id => rfl
  | query id request abort => rfl

theorem Quiet.waits (h : d.Quiet) {gate : Gate} {s : Session} (task : Nat)
    (hr : server.receive b.call = (some gate, server')) :
    Quiet
      { d with session := s, server := server', waiting := d.waiting ++ [⟨task, b, gate⟩] } := by
  intro w hw
  rcases List.mem_append.mp hw with hw | hw
  · exact h w hw
  · rw [List.mem_singleton.mp hw]
    exact not_isPrompt_of_receive hr

end

/-- an operation that goes on at a desk makes a run of traffic -/
theorem leads_run (task : Nat) (past : List Ending) (d : Desk) (a : Await)
    (server : ScriptedServer) (reply : a.call.Reply) (hd : d.Quiet) :
    ({ d.traffic past with server }.goOn task (d.session.resume a reply)).Leads
        ((d.run task a server reply).1.traffic (past ++ (d.run task a server reply).2)) ∧
      (d.run task a server reply).1.Quiet := by
  induction d, a, server, reply using Desk.run.induct with
  | case1 d a server reply s result h =>
    rw [run_ends h, h]
    exact ⟨.refl _, hd⟩
  | case2 d a server reply s b h gate server' hr =>
    rw [run_held h hr, h]
    refine ⟨?_, hd.waits task hr⟩
    have hgo : ({ d.traffic past with server }.goOn task (s, .waits b)) =
        ({ d with session := s, server := server', waiting := d.waiting ++ [⟨task, b, gate⟩] }
          : Desk).traffic (past ++ []) := by
      simp [Traffic.goOn, traffic, hr, Waiting.pending]
    rw [hgo]
    exact .refl _
  | case3 d a server reply s b h server' hr answer server'' hs ih =>
    -- the call is answered in an event of its own, and what follows the answer is the rest
    have hd' : Quiet { d with session := s } := hd
    obtain ⟨hlate, hquiet⟩ := ih hd'
    have hfirst := goOn_answer_last { d.traffic past with server } task (s := s) (b := b) hr
    have hprompt := Traffic.prompt_answer_last (t := { d.traffic past with server })
      (hd.atRest past) task s b
    rw [run_free h hr, hs, h]
    refine ⟨.trans (.of_step hprompt ?_) hlate, hquiet⟩
    exact hfirst.trans (by rw [hs]; rfl)

theorem leads_begin (d : Desk) (past : List Ending) (o : Operation) (hd : d.Quiet) :
    (d.traffic past).Leads ((d.begin o.begin).1.traffic (past ++ (d.begin o.begin).2)) ∧
      (d.begin o.begin).1.Quiet := by
  rcases hst : o.begin d.session with ⟨s, p⟩
  have hprompt := (hd.atRest past).prompt (.begin o)
  have hstep : (d.traffic past).step (.begin o) =
      { d.traffic past with tasks := d.tasks + 1 }.goOn (d.tasks + 1) (s, p) := by
    rw [← hst]
    rfl
  cases p with
  | ends result =>
    simp only [begin, hst]
    exact ⟨.of_step hprompt hstep, hd⟩
  | waits a =>
    rcases hr : d.server.receive a.call with ⟨gate, server⟩
    cases gate with
    | some gate =>
      simp only [begin, hst, hr]
      refine ⟨.of_step hprompt (hstep.trans ?_), Quiet.waits (d := d) (s := s) hd (d.tasks + 1) hr⟩
      simp [hr, Traffic.goOn, traffic, Waiting.pending]
    | none =>
      have hd' : Quiet { d with session := s, tasks := d.tasks + 1, server } := hd
      obtain ⟨hlate, hquiet⟩ := leads_run (d.tasks + 1) past
        { d with session := s, tasks := d.tasks + 1, server } a (server.reply a.call).2
        (server.reply a.call).1 hd'
      have hlast := goOn_answer_last { d.traffic past with tasks := d.tasks + 1 } (d.tasks + 1)
        (s := s) (b := a) hr
      have hanswer := Traffic.prompt_answer_last (t := { d.traffic past with tasks := d.tasks + 1 })
        (hd.atRest past) (d.tasks + 1) s a
      simp only [begin, hst, hr, proceed]
      exact ⟨.trans (.of_step hprompt hstep) (.trans (.of_step hanswer hlast) hlate), hquiet⟩

/-! ## gates -/

theorem getElem?_pending {d : Desk} {xs ys : List Waiting} {w : Waiting} (past : List Ending)
    (h : d.waiting = xs ++ w :: ys) :
    (d.traffic past).pending[xs.length]? = some w.pending ∧
      (d.traffic past).pending.eraseIdx xs.length = (xs ++ ys).map Waiting.pending := by
  have hlen : xs.length = (xs.map Waiting.pending).length := by simp
  have hpending : (d.traffic past).pending =
      xs.map Waiting.pending ++ w.pending :: ys.map Waiting.pending := by
    show d.waiting.map Waiting.pending = _
    rw [h, List.map_append, List.map_cons]
  rw [hpending, hlen]
  constructor
  · simp
  · simp [List.eraseIdx_append]

theorem leads_letGo (d : Desk) (past : List Ending) (gate : Gate) (hd : d.Quiet) :
    (d.traffic past).Leads ((d.letGo gate).1.traffic (past ++ (d.letGo gate).2)) ∧
      (d.letGo gate).1.Quiet := by
  cases hf : d.waiting.find? (·.gate = gate) with
  | none =>
    simp only [letGo, hf, List.append_nil]
    exact ⟨.of_step ((hd.atRest past).prompt (.cue (.spareRelease gate))) rfl, hd⟩
  | some w =>
    obtain ⟨hw, xs, ys, hxs, hne⟩ := List.find?_eq_some_iff_append.mp hf
    have herase : d.waiting.eraseP (·.gate = gate) = xs ++ ys := by
      rw [hxs, List.eraseP_append_right _ (by simpa using hne)]
      simp [of_decide_eq_true hw]
    obtain ⟨hget, hidx⟩ := getElem?_pending past hxs
    have hd' : Quiet { d with waiting := xs ++ ys } := fun v hv =>
      hd v (List.mem_of_mem_eraseP (herase ▸ hv))
    obtain ⟨hlate, hquiet⟩ := leads_run w.task past { d with waiting := xs ++ ys } w.await
      (d.server.reply w.await.call).2 (d.server.reply w.await.call).1 hd'
    have hprompt := (hd.atRest past).prompt (.answer xs.length)
    simp only [letGo, hf, herase, proceed]
    refine ⟨.trans (.of_step hprompt ?_) hlate, hquiet⟩
    simp only [Traffic.step, hget, hidx]
    rfl

/-! ## queries that are given up -/

theorem eq_querying_of_abort {a : Await} {token : CancelToken} (h : a.call.abort? = some token) :
    ∃ q, a = .querying q ∧ q.token = token := by
  cases a with
  | querying q => exact ⟨q, rfl, Option.some.inj h⟩
  | _ => cases h

/-- a call that is given up ends its operation, and gives up no other -/
theorem exists_ends_of_isGivenUp {d : Desk} {w : Waiting} (h : d.isGivenUp w = true) :
    ∃ s result, d.session.resume w.await (.error .cancelled) = (s, .ends result) ∧
      s.cancelled = d.session.cancelled := by
  unfold isGivenUp at h
  split at h
  · next token ht =>
    obtain ⟨q, hq, -⟩ := eq_querying_of_abort ht
    rw [hq]
    simp only [Session.resume, Session.queried]
    cases d.session.standing q with
    | stale => exact ⟨_, _, rfl, rfl⟩
    | killed => exact ⟨_, _, rfl, rfl⟩
    | current => exact ⟨_, _, rfl, rfl⟩
  · cases h

theorem step_giveUp {t : Traffic} {i : Nat} {p : Pending} {s : Session}
    {result : Except ConsoleError Outcome} (hp : t.pending[i]? = some p)
    (hup : t.isGivenUp p.await = true)
    (hres : t.session.resume p.await (.error .cancelled) = (s, .ends result)) :
    t.step (.giveUp i) = { t with
      session := s
      pending := t.pending.eraseIdx i
      endings := t.endings ++ [⟨p.task, result⟩] } := by
  simp only [Traffic.step, hp, hup, if_true]
  show Traffic.goOn _ _ (t.session.resume p.await (.error .cancelled)) = _
  rw [hres]
  rfl

theorem leads_abandon {d : Desk} {xs ys : List Waiting} {w : Waiting} {s : Session}
    {result : Except ConsoleError Outcome} (past : List Ending) (hw : d.waiting = xs ++ w :: ys)
    (hd : d.Quiet) (hup : d.isGivenUp w = true)
    (hres : d.session.resume w.await (.error .cancelled) = (s, .ends result)) :
    (d.traffic past).Leads (({ d with session := s, waiting := xs ++ ys } : Desk).traffic
      (past ++ [⟨w.task, result⟩])) := by
  obtain ⟨hget, hidx⟩ := getElem?_pending past hw
  refine .of_step ((hd.atRest past).prompt _) ((step_giveUp hget hup hres).trans ?_)
  rw [hidx]
  rfl

/-- one query is given up; those that have ended before are kept -/
def abandon (x : Desk × List Ending) (w : Waiting) : Desk × List Ending :=
  let r := x.1.run w.task w.await x.1.server (.error .cancelled)
  (r.1, x.2 ++ r.2)

/-- of `ys` those that are given up go, behind `xs` of which none is; the desk has let go of them
all before the first one ends -/
theorem leads_foldl (past : List Ending) (up : Waiting → Bool) (ys : List Waiting) :
    ∀ (xs : List Waiting) (d : Desk) (ends : List Ending), (∀ w, d.isGivenUp w = up w) →
      d.waiting = xs ++ ys.filter (fun w => !up w) → Quiet { d with waiting := xs ++ ys } →
      (({ d with waiting := xs ++ ys } : Desk).traffic (past ++ ends)).Leads
        (((ys.filter up).foldl abandon (d, ends)).1.traffic
          (past ++ ((ys.filter up).foldl abandon (d, ends)).2)) ∧
        ((ys.filter up).foldl abandon (d, ends)).1.Quiet := by
  induction ys with
  | nil =>
    intro xs d ends _ hd hq
    simp only [List.filter_nil, List.append_nil] at hd hq ⊢
    rw [← hd] at hq ⊢
    exact ⟨.refl _, hq⟩
  | cons w ys ih =>
    intro xs d ends hup hd hq
    cases hw : up w with
    | false =>
      -- one that stays moves behind `xs`
      have h := ih (xs ++ [w]) d ends hup (by rw [hd]; simp [hw]) (by simpa using hq)
      simpa [hw] using h
    | true =>
      obtain ⟨s, result, hres, hs⟩ := exists_ends_of_isGivenUp ((hup w).trans hw)
      have hrun : abandon (d, ends) w = ({ d with session := s }, ends ++ [⟨w.task, result⟩]) := by
        simp only [abandon, run_ends hres]
      have hfirst := leads_abandon (d := { d with waiting := xs ++ w :: ys }) (past ++ ends) rfl hq
        ((hup w).trans hw) hres
      rw [List.append_assoc] at hfirst
      have hup' : ∀ v, ({ d with session := s } : Desk).isGivenUp v = up v := by
        intro v
        rw [← hup v]
        simp only [isGivenUp, Session.isCancelled, hs]
      have hq' : Quiet { d with session := s, waiting := xs ++ ys } := fun v hv =>
        hq v (((List.sublist_cons_self w ys).append_left xs).subset hv)
      obtain ⟨hlate, hquiet⟩ := ih xs { d with session := s } (ends ++ [⟨w.task, result⟩]) hup'
        (by rw [hd]; simp [hw]) hq'
      rw [List.filter_cons_of_pos hw, List.foldl_cons, hrun]
      exact ⟨hfirst.trans hlate, hquiet⟩

theorem leads_giveUp (d : Desk) (past : List Ending) (hd : d.Quiet) :
    (d.traffic past).Leads (d.giveUp.1.traffic (past ++ d.giveUp.2)) ∧ d.giveUp.1.Quiet := by
  have h := leads_foldl past d.isGivenUp d.waiting []
    { d with waiting := d.waiting.filter fun w => !d.isGivenUp w } [] (fun _ => rfl) rfl hd
  rw [List.append_nil] at h
  exact h

/-! ## desks that can be reached -/

/-- a desk that has come about by its own steps, and the operations that have ended at it -/
inductive Reached (u : Setup) : Desk → List Ending → Prop where
  | fresh : Reached u (Desk.fresh u.session) []
  | begin {d past} (o : Operation) (h : Reached u d past) :
    Reached u (d.begin o.begin).1 (past ++ (d.begin o.begin).2)
  | letGo {d past} (gate : Gate) (h : Reached u d past) :
    Reached u (d.letGo gate).1 (past ++ (d.letGo gate).2)
  | giveUp {d past} (h : Reached u d past) : Reached u d.giveUp.1 (past ++ d.giveUp.2)
  | deed {d past} (e : Deed) (h : Reached u d past) : Reached u (d.mapSession e.apply) past
  | cue {d past} (c : Cue) (h : Reached u d past) : Reached u (d.mapServer c.apply) past
  | pass {d past} (nanos : Int) (h : Reached u d past) :
    Reached u (d.mapSession (·.advance nanos)) past

theorem Reached.leads {u : Setup} {d : Desk} {past : List Ending} (h : Reached u d past) :
    (Traffic.fresh u).Leads (d.traffic past) ∧ d.Quiet := by
  induction h with
  | fresh =>
    refine ⟨.refl _, fun w hw => ?_⟩
    cases hw
  | begin o _ ih =>
    obtain ⟨hl, hq⟩ := leads_begin _ _ o ih.2
    exact ⟨ih.1.trans hl, hq⟩
  | letGo gate _ ih =>
    obtain ⟨hl, hq⟩ := leads_letGo _ _ gate ih.2
    exact ⟨ih.1.trans hl, hq⟩
  | giveUp _ ih =>
    obtain ⟨hl, hq⟩ := leads_giveUp _ _ ih.2
    exact ⟨ih.1.trans hl, hq⟩
  | deed e _ ih => exact ⟨ih.1.trans (.of_step ((ih.2.atRest _).prompt (.deed e)) rfl), ih.2⟩
  | cue c _ ih => exact ⟨ih.1.trans (.of_step ((ih.2.atRest _).prompt (.cue c)) rfl), ih.2⟩
  | pass nanos _ ih =>
    exact ⟨ih.1.trans (.of_step ((ih.2.atRest _).prompt (.pass nanos)) rfl), ih.2⟩

/-- **Every desk that can be reached is the traffic at rest after a prompt run.** -/
theorem Reached.exists_run {u : Setup} {d : Desk} {past : List Ending} (h : Reached u d past) :
    ∃ run, Traffic.after u run = d.traffic past ∧
      (Traffic.fresh u).Throughout Traffic.Prompt run ∧ (Traffic.after u run).AtRest := by
  obtain ⟨⟨run, hrun, hprompt⟩, hquiet⟩ := h.leads
  have hafter : Traffic.after u run = d.traffic past := hrun
  exact ⟨run, hafter, hprompt, hafter ▸ hquiet.atRest past⟩

end Desk

end QueryDesk
