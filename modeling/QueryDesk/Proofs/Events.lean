import QueryDesk.Proofs.Tracking

/-!
# What an event does

* `Traffic.sends`          the request that goes out in an event;
* `Traffic.Agreed`         the server has agreed to a stop, `Traffic.Acknowledges` in time;
* `Traffic.creates`, `Traffic.wipes`   a tab is new, or a place of it is emptied;
* `Traffic.Writes`         all that an event can do to the memories and to the tokens (`writes`),
  `Traffic.Change` to one memory (`change`);
* `Traffic.exists_begin`   every call that is out goes back to the beginning of its operation.
-/

namespace QueryDesk

namespace Traffic

/-- the request that goes out in the event -/
def sends (t : Traffic) : Event → Option Flight
  | .begin o => (flights (o.begin t.session).2.awaits).head?
  | _ => none

/-- the server agrees to a stop -/
def Agreed (t : Traffic) (e : Event) (task : Nat) (x : Stop) : Prop :=
  ∃ gate, ∃ set : ResultSet, set.firstError? = none ∧ t.Hears e ⟨task, x.await, gate⟩ (.ok set)

/-- ... and `r`, which ran when the stop was sent, still runs, and is to be stopped from now on -/
structure Acknowledges (t : Traffic) (e : Event) (task : Nat) (x : Stop) (r : RequestId) :
    Prop where
  agreed : t.Agreed e task x
  target : x.target = some r
  running : ∃ m, t.session.memory? x.tab = some m ∧ m.running? = some r
  stopped : ∃ m, (t.step e).session.memory? x.tab = some m ∧ m.isKilled = true ∧
    m.query.result.owner = some r

/-- the tab has a memory through the event, and had none before -/
def creates (t : Traffic) (e : Event) (tab : TabId) : Bool :=
  (t.session.memory? tab).isNone && ((t.step e).session.memory? tab).isSome

/-- the place of a tab that was there before is emptied -/
def wipes (t : Traffic) : Event → TabId → Place → Bool
  | .deed (.refreshLastTab other), tab, _ =>
    other = tab && (t.session.store.tabs.tab? tab).isSome
  | .deed (.clearPreviews other), tab, place => other = tab && place ≠ .query
  | _, _, _ => false

end Traffic

/-! ## memories that are kept -/

/-- no request goes out, no token is cancelled, the memories that are new are empty, and the others
are as they were -/
structure MemoriesKept (s s' : Session) : Prop where
  requests : s'.requestsSent = s.requestsSent
  cancelled : s'.cancelled = s.cancelled
  memory : ∀ tab m', s'.memory? tab = some m' →
    (s.memory? tab = none ∧ m' = TabMemory.empty) ∨ s.memory? tab = some m'

namespace MemoriesKept
variable {s s' : Session} {as : List Await}

theorem of_memory (hr : s'.requestsSent = s.requestsSent) (hc : s'.cancelled = s.cancelled)
    (h : ∀ tab, s'.memory? tab = s.memory? tab) : MemoriesKept s s' where
  requests := hr
  cancelled := hc
  memory := fun tab _ hm' => .inr ((h tab).symm.trans hm')

theorem of_upkeep (ht : Tracked s as) (h : Upkeep s s') : MemoriesKept s s' where
  requests := h.requests
  cancelled := h.cancelled
  memory := by
    intro tab m' hm'
    rcases h.memory tab with e | e | ⟨hlt, _, e⟩
    · exact .inr (e.symm.trans hm')
    · rw [e] at hm'
      cases hm'
    · rw [e] at hm'
      cases hm'
      refine .inl ⟨?_, rfl⟩
      -- the tab was not drawn yet, so it had no memory
      cases hm : s.memory? tab with
      | none => rfl
      | some m =>
        have hle := ht.drawn tab m hm
        omega

end MemoriesKept

/-! ## all that an event can do to memories and tokens -/

namespace Traffic

/-- an event keeps the memories, sends a request, brings one to its end, has one stopped, or empties
slots -/
inductive Writes (t : Traffic) : Event → Session → Prop where
  | keep {e s'} (h : MemoriesKept t.session s') (hs : t.sends e = none)
    (hw : ∀ tab place, t.wipes e tab place = false) : Writes t e s'
  | launch {o f} (hs : t.sends (.begin o) = some f) : Writes t (.begin o) (t.session.launch f)
  | land {e} {p : Pending} {reply : p.await.call.Reply} {f s'} (h : t.Hears e p reply)
    (hf : p.await.flight? = some f) (ht : Touchdown f t.session s') : Writes t e s'
  | stop {e task x m r} (h : t.Agreed e task x) (hx : x.target = some r)
    (hm : t.session.memory? x.tab = some m) (hr : m.running? = some r) :
    Writes t e ((t.session.remember x.tab (·.requestKill)).cancel ⟨r.number⟩)
  | refresh {tab s'} (hx : (t.session.store.tabs.tab? tab).isSome = true)
    (hr : s'.requestsSent = t.session.requestsSent) (hc : s'.cancelled = t.session.cancelled)
    (hm : ∀ other, s'.memory? other =
      if other = tab then (t.session.memory? tab).map fun _ => TabMemory.empty
      else t.session.memory? other) : Writes t (.deed (.refreshLastTab tab)) s'
  | clear (tab : TabId) :
    Writes t (.deed (.clearPreviews tab)) (t.session.remember tab (·.clearPreviews))

section
variable {t : Traffic} {e : Event}

theorem Hears.sends {p : Pending} {reply : p.await.call.Reply} (h : t.Hears e p reply) :
    t.sends e = none := by
  cases h <;> rfl

theorem Hears.wipes {p : Pending} {reply : p.await.call.Reply} (h : t.Hears e p reply)
    (tab : TabId) (place : Place) : t.wipes e tab place = false := by
  cases h <;> rfl

theorem wipes_of_sends {f : Flight} (h : t.sends e = some f) (tab : TabId) (place : Place) :
    t.wipes e tab place = false := by
  cases e with
  | begin o => rfl
  | _ => cases h

theorem Writes.begin (ht : Tracked t.session t.awaits) (o : Operation) :
    t.Writes (.begin o) (o.begin t.session).1 := by
  have hsend : t.sends (.begin o) = (flights (o.begin t.session).2.awaits).head? := rfl
  have hst := t.session.began o
  generalize o.begin t.session = st at hst hsend ⊢
  cases hst with
  | keep hk =>
    have hnil : flights st.2.awaits = [] := List.filterMap_eq_nil_iff.mpr hk.flights
    exact .keep (.of_upkeep ht hk.upkeep) (by rw [hsend, hnil]; rfl) fun _ _ => rfl
  | clone source tab => exact .keep (.of_memory rfl rfl fun _ => rfl) hsend fun _ _ => rfl
  | launch f ha _ _ _ =>
    refine .launch ?_
    rw [hsend]
    simp [Progress.awaits, flights, ha]
  | stop _ _ _ => exact .keep (.of_memory rfl rfl fun _ => rfl) hsend fun _ _ => rfl

theorem Writes.hears (ht : Tracked t.session t.awaits) {p : Pending} {reply : p.await.call.Reply}
    (h : t.Hears e p reply) : t.Writes e (t.session.resume p.await reply).1 := by
  have hst := t.session.resumed reply (ht.bound _ (List.mem_map_of_mem h.mem))
  obtain ⟨task, a, gate⟩ := p
  generalize t.session.resume a reply = st at hst ⊢
  cases hst with
  | keep _ hk => exact .keep (.of_upkeep ht hk.upkeep) h.sends h.wipes
  | arrive _ _ => exact .keep (.of_memory rfl rfl fun _ => rfl) h.sends h.wipes
  | switch _ _ => exact .keep (.of_memory rfl rfl fun _ => rfl) h.sends h.wipes
  | land f hf htd _ => exact .land h hf htd
  | @acknowledge tab via thread target set he =>
    rcases ht.markKilled_cases tab target with hk | ⟨m, r, hm, rfl, hr, hk⟩
    · rw [hk]
      exact .keep (.of_memory rfl rfl fun _ => rfl) h.sends h.wipes
    · rw [hk]
      exact .stop (x := ⟨tab, via, thread, some r⟩) ⟨gate, set, he, h⟩ rfl hm hr

theorem Writes.deed (ht : Tracked t.session t.awaits) (d : Deed) :
    t.Writes (.deed d) (d.apply t.session) := by
  cases d with
  | refreshLastTab tab =>
    cases hx : t.session.store.tabs.tab? tab with
    | none =>
      have he : (Deed.refreshLastTab tab).apply t.session = t.session := by
        simp only [Deed.apply, Session.refreshLastTab, hx]
      rw [he]
      refine .keep (.of_memory rfl rfl fun _ => rfl) rfl fun other _ => ?_
      by_cases ho : tab = other
      · subst ho
        simp [wipes, hx]
      · simp [wipes, ho]
    | some x =>
      have he : (Deed.refreshLastTab tab).apply t.session =
          (t.session.mapTabs (·.refreshTab tab)).remember tab fun _ => TabMemory.empty := by
        simp only [Deed.apply, Session.refreshLastTab, hx]
        rfl
      rw [he]
      exact .refresh (by rw [hx]; rfl) rfl rfl fun other => Session.memory?_remember ..
  | clearPreviews tab => exact .clear tab
  | createWorksheet name => exact .keep (.of_upkeep ht (.createWorksheet _ name)) rfl fun _ _ => rfl
  | edit tab e => exact .keep (.of_memory rfl rfl fun _ => rfl) rfl fun _ _ => rfl
  | bindFile tab path => exact .keep (.of_memory rfl rfl fun _ => rfl) rfl fun _ _ => rfl
  | drainNotices => exact .keep (.of_memory rfl rfl fun _ => rfl) rfl fun _ _ => rfl

theorem writes (ht : Tracked t.session t.awaits) (e : Event) : t.Writes e (t.step e).session := by
  cases t.happens e with
  | begin o =>
    rw [t.session_begin o]
    exact .begin ht o
  | hears h =>
    rw [h.session]
    exact .hears ht h
  | deed d => exact .deed ht d
  | idle clock hs _ _ hb hd =>
    rw [hs]
    refine .keep (.of_memory rfl rfl fun _ => rfl) ?_ ?_
    · cases e with
      | begin o => exact absurd rfl (hb o)
      | _ => rfl
    · cases e with
      | deed d => exact absurd rfl (hd d)
      | _ => exact fun _ _ => rfl

/-- what an event makes of the memory of a tab -/
inductive Change (t : Traffic) (e : Event) (tab : TabId) : Option TabMemory → TabMemory → Prop where
  | created (h : t.creates e tab = true) : Change t e tab none TabMemory.empty
  | kept {m} (hs : ∀ f, t.sends e = some f → f.tab ≠ tab)
    (hw : ∀ place, t.wipes e tab place = false) : Change t e tab (some m) m
  | launched {m f} (hs : t.sends e = some f) (ht : f.tab = tab) :
    Change t e tab (some m) (m.launch f)
  | landed {m m'} {p : Pending} {reply : p.await.call.Reply} {f} (h : t.Hears e p reply)
    (hf : p.await.flight? = some f) (ht : f.tab = tab)
    (ho : (m.slot f.place).owner = some f.request) (hl : Lands f m m') : Change t e tab (some m) m'
  | stopped {m task r} {x : Stop} (h : t.Agreed e task x) (hx : x.target = some r)
    (ht : x.tab = tab) (hr : m.running? = some r) : Change t e tab (some m) m.requestKill
  | refreshed {m} (he : e = .deed (.refreshLastTab tab))
    (hx : (t.session.store.tabs.tab? tab).isSome = true) : Change t e tab (some m) TabMemory.empty
  | cleared {m} (he : e = .deed (.clearPreviews tab)) : Change t e tab (some m) m.clearPreviews

theorem tab_ne_of_sends (h : t.sends e = none) {tab : TabId} (f : Flight)
    (hs : t.sends e = some f) : f.tab ≠ tab := by
  rw [h] at hs
  cases hs

/-- **What an event makes of the memory of a tab.** -/
theorem change (ht : Tracked t.session t.awaits) {tab : TabId} {m' : TabMemory}
    (hm' : (t.step e).session.memory? tab = some m') :
    t.Change e tab (t.session.memory? tab) m' := by
  have hcreate : t.session.memory? tab = none → t.creates e tab = true := by
    intro hm
    simp [creates, hm, hm']
  have hw := writes ht e
  generalize (t.step e).session = s' at hw hm'
  cases hw with
  | keep h hs hwipe =>
    rcases h.memory tab m' hm' with ⟨hm, rfl⟩ | hm
    · rw [hm]
      exact .created (hcreate hm)
    · rw [hm]
      exact .kept (tab_ne_of_sends hs) (hwipe tab)
  | @launch o f hs =>
    rcases Session.memory?_launch_cases hm' with ⟨m, rfl, hm, rfl⟩ | ⟨htab, hm⟩
    · rw [hm]
      exact .launched hs rfl
    · rw [hm]
      refine .kept (fun g hg => ?_) fun _ => rfl
      rw [hs] at hg
      cases hg
      exact fun he => htab he.symm
  | @land _ p reply f _ h hf htd =>
    rcases htd.memory?_cases hm' with ⟨m, rfl, hm, ho, hl⟩ | ⟨hm, _⟩
    · rw [hm]
      exact .landed h hf rfl ho hl
    · rw [hm]
      exact .kept (tab_ne_of_sends h.sends) (h.wipes tab)
  | @stop _ task x m r h hx hm hr =>
    have hm'' : (t.session.remember x.tab (·.requestKill)).memory? tab = some m' := hm'
    rcases Session.memory?_remember_cases hm'' with ⟨m₁, rfl, hm₁, rfl⟩ | ⟨_, hm₁⟩
    · rw [hm] at hm₁ ⊢
      cases hm₁
      exact .stopped h hx rfl hr
    · have ⟨_, _, _, hh⟩ := h
      rw [hm₁]
      exact .kept (tab_ne_of_sends hh.sends) (hh.wipes tab)
  | @refresh other _ hx _ _ hmem =>
    rw [hmem] at hm'
    split at hm'
    · next htab =>
      subst htab
      obtain ⟨m, hm, rfl⟩ := Option.map_eq_some_iff.mp hm'
      rw [hm]
      exact .refreshed rfl hx
    · next htab =>
      have hne : ¬ other = tab := fun h => htab h.symm
      rw [hm']
      exact .kept (tab_ne_of_sends rfl) fun _ => by simp [wipes, hne]
  | clear other =>
    rcases Session.memory?_remember_cases hm' with ⟨m, rfl, hm, rfl⟩ | ⟨htab, hm⟩
    · rw [hm]
      exact .cleared rfl
    · have hne : ¬ other = tab := fun h => htab h.symm
      rw [hm]
      exact .kept (tab_ne_of_sends rfl) fun _ => by simp [wipes, hne]

end

/-- a request is numbered in the event that sends it, and goes out on the connection of its tab -/
theorem sends_begin {t : Traffic} {e : Event} {f : Flight} (h : t.sends e = some f) :
    f.request.number = t.session.requestsSent + 1 ∧
      t.session.connectionOf f.tab = .ok f.sent.connection ∧
      (t.step e).session.requestsSent = t.session.requestsSent + 1 := by
  cases e with
  | begin o =>
    have hst := t.session.began o
    have hsend : (flights (o.begin t.session).2.awaits).head? = some f := h
    rw [t.session_begin]
    generalize o.begin t.session = st at hst hsend ⊢
    cases hst with
    | keep hk =>
      have hnil : flights st.2.awaits = [] := List.filterMap_eq_nil_iff.mpr hk.flights
      rw [hnil] at hsend
      cases hsend
    | clone _ _ => cases hsend
    | @launch _ a g ha _ hc hr =>
      have hg : (flights (Progress.waits a).awaits).head? = some g := by
        simp [Progress.awaits, flights, ha]
      rw [hsend] at hg
      cases hg
      exact ⟨congrArg RequestId.number hr, hc, rfl⟩
    | stop _ _ _ => cases hsend
  | _ => cases h

/-- requests are numbered in the order of the events -/
theorem requestsSent_le (t : Traffic) (ht : Tracked t.session t.awaits) (e : Event) :
    t.session.requestsSent ≤ (t.step e).session.requestsSent := by
  have hw := writes ht e
  generalize (t.step e).session = s' at hw ⊢
  cases hw with
  | keep h _ _ => exact Nat.le_of_eq h.requests.symm
  | launch _ => exact Nat.le_succ _
  | land _ _ htd => exact Nat.le_of_eq htd.requests.symm
  | stop _ _ _ _ => exact Nat.le_refl _
  | refresh _ hr _ _ => exact Nat.le_of_eq hr.symm
  | clear _ => exact Nat.le_refl _

theorem requestsSent_mono (u : Setup) {early run : List Event} (h : early <:+ run) :
    (after u early).session.requestsSent ≤ (after u run).session.requestsSent := by
  obtain ⟨late, rfl⟩ := h
  induction late with
  | nil => exact Nat.le_refl _
  | cons e late ih => exact Nat.le_trans ih (requestsSent_le _ (tracked_after u _) e)

/-- a number is drawn in one event of a run -/
theorem suffix_eq_of_sends (u : Setup) {run early early' : List Event} {e e' : Event}
    {f f' : Flight} (h : e :: early <:+ run) (h' : e' :: early' <:+ run)
    (hf : (after u early).sends e = some f) (hf' : (after u early').sends e' = some f')
    (hr : f.request = f'.request) : e :: early = e' :: early' := by
  obtain ⟨hn, _, hs⟩ := sends_begin hf
  obtain ⟨hn', _, hs'⟩ := sends_begin hf'
  rw [hr] at hn
  rcases List.suffix_or_suffix_of_suffix h h' with hle | hle
  · rcases List.suffix_cons_iff.mp hle with he | hlt
    · exact he
    · have hmono := requestsSent_mono u hlt
      rw [after_cons, hs] at hmono
      omega
  · rcases List.suffix_cons_iff.mp hle with he | hlt
    · exact he.symm
    · have hmono := requestsSent_mono u hlt
      rw [after_cons, hs'] at hmono
      omega

/-- a call that is out and bears a mark goes back to the beginning of its operation, when no stretch
gives a mark that was not there before -/
theorem exists_begin {α : Type} (mark : Await → Option α)
    (hmark : ∀ s a reply b, a.Bound → (Session.resume s a reply).2 = .waits b →
      mark b = none ∨ mark b = mark a)
    (u : Setup) (run : List Event) {p : Pending} (hp : p ∈ (after u run).pending) {x : α}
    (hx : mark p.await = some x) :
    ∃ o run' a, .begin o :: run' <:+ run ∧ (o.begin (after u run').session).2 = .waits a ∧
      mark a = some x ∧ p.task = (after u run').tasks + 1 := by
  induction run generalizing p with
  | nil => cases hp
  | cons e run ih =>
    have further : ∀ {q : Pending}, q ∈ (after u run).pending → mark q.await = some x →
        ∃ o run' a, .begin o :: run' <:+ e :: run ∧ (o.begin (after u run').session).2 = .waits a ∧
          mark a = some x ∧ q.task = (after u run').tasks + 1 := by
      intro q hq hqx
      obtain ⟨o, run', a, hsuf, ha⟩ := ih hq hqx
      exact ⟨o, run', a, hsuf.trans (List.suffix_cons e run), ha⟩
    rw [after_cons] at hp
    cases (after u run).happens e with
    | begin o =>
      rcases mem_goOn hp with hp | ⟨htask, hwait⟩
      · exact further hp hx
      · exact ⟨o, run, p.await, List.suffix_refl _, hwait, hx, htask⟩
    | @hears _ q reply h =>
      obtain ⟨i, server, hi, hstep⟩ := h.step_eq
      rw [hstep] at hp
      rcases mem_goOn hp with hp | ⟨htask, hwait⟩
      · exact further (List.mem_of_mem_eraseIdx hp) hx
      · have hbound := (tracked_after u run).bound _ (List.mem_map_of_mem h.mem)
        rw [htask]
        rcases hmark _ _ _ _ hbound hwait with hnone | hsame
        · rw [hnone] at hx
          cases hx
        · exact further h.mem (hsame.symm.trans hx)
    | deed d => exact further hp hx
    | idle clock _ hpend _ _ _ =>
      rw [hpend] at hp
      exact further hp hx

/-- the operation with this number has sent the request -/
def HasSent (u : Setup) (run : List Event) (task : Nat) (f : Flight) : Prop :=
  ∃ o run', .begin o :: run' <:+ run ∧ (after u run').sends (.begin o) = some f ∧
    task = (after u run').tasks + 1

theorem HasSent.cons {u : Setup} {run : List Event} {task : Nat} {f : Flight}
    (h : HasSent u run task f) (e : Event) : HasSent u (e :: run) task f := by
  obtain ⟨o, run', hsuf, h⟩ := h
  exact ⟨o, run', hsuf.trans (List.suffix_cons e run), h⟩

/-- the request that a call waits for went out when its operation was begun -/
theorem hasSent (u : Setup) (run : List Event) {p : Pending} (hp : p ∈ (after u run).pending)
    {f : Flight} (hf : p.await.flight? = some f) : HasSent u run p.task f := by
  have hmark : ∀ s a reply b, a.Bound → (Session.resume s a reply).2 = .waits b →
      b.flight? = none ∨ b.flight? = a.flight? := fun s _ _ _ hb hwait =>
    (s.resume_waits hb hwait).imp (·.1) (·.1)
  obtain ⟨o, run', a, hsuf, hwait, ha, htask⟩ := exists_begin Await.flight? hmark u run hp hf
  refine ⟨o, run', hsuf, ?_, htask⟩
  show (flights (o.begin (after u run').session).2.awaits).head? = some f
  rw [hwait]
  simp [Progress.awaits, flights, ha]

end Traffic

end QueryDesk
