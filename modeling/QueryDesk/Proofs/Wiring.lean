import QueryDesk.Proofs.Stretch

/-!
# Tabs keep their threads

A tab gets one connection, from the operation that makes it, unless a connection is cloned for it
by hand.  So a request that is out runs on the thread that its tab has, as long as the tab has one.

* `clones`          the tabs that wait for their connections;
* `Wired s as`      what is known of the threads of a session `s`, when the calls `as` are out;
* `wired_kept`      whatever can happen keeps it, when nothing is cloned by hand.
-/

namespace QueryDesk

/-- the tabs that wait for their connections -/
def clones (as : List Await) : List TabId := as.filterMap Await.clonesFor?

theorem clones_cons_of_none {a : Await} (h : a.clonesFor? = none) (as : List Await) :
    clones (a :: as) = clones as := by
  simp [clones, h]

theorem clones_cons_of_some {a : Await} {tab : TabId} (h : a.clonesFor? = some tab)
    (as : List Await) : clones (a :: as) = tab :: clones as := by
  simp [clones, h]

/-- an operation that is no clone by hand -/
def Operation.NoClone (o : Operation) : Prop := ∀ source tab, o ≠ .cloneConnection source tab

structure Wired (s : Session) (as : List Await) : Prop where
  bound : ∀ a ∈ as, a.Bound
  one : ∀ tab thread thread', s.threadOf tab thread → s.threadOf tab thread' → thread = thread'
  /-- a request that is out runs on the thread of its tab -/
  out : ∀ f ∈ flights as, ∀ thread, s.threadOf f.tab thread → thread = f.sent.connection.thread
  /-- a tab that waits for its connection has none, and no request is out for it -/
  bare : ∀ tab ∈ clones as, ∀ thread, ¬ s.threadOf tab thread
  quiet : ∀ tab ∈ clones as, ∀ f ∈ flights as, f.tab ≠ tab
  once : (clones as).Nodup
  drawnThread : ∀ tab thread, s.threadOf tab thread → tab.number ≤ s.tabsDrawn
  drawnOut : ∀ f ∈ flights as, f.tab.number ≤ s.tabsDrawn
  drawnClone : ∀ tab ∈ clones as, tab.number ≤ s.tabsDrawn

/-! ## threads -/

namespace Session

theorem threadOf_of_connectionOf {s : Session} {tab : TabId} {c : Connection}
    (h : s.connectionOf tab = .ok c) : s.threadOf tab c.thread := by
  unfold connectionOf at h
  split at h
  · cases h
  · split at h
    · cases h
    · next d hd =>
      cases h
      have hb := List.find?_some hd
      exact ⟨c, List.mem_of_find?_eq_some hd, of_decide_eq_true hb, rfl⟩

/-- a connection that comes for a tab takes the place of those that the tab had -/
theorem threadOf_insert {s : Session} {c : Connection} {tab : TabId} (hc : c.binding = .tab tab)
    {other : TabId} {thread : UInt64} (h : (s.mapConnections (·.insert c)).threadOf other thread) :
    (other = tab ∧ thread = c.thread) ∨ (other ≠ tab ∧ s.threadOf other thread) := by
  obtain ⟨d, hd, hb, ht⟩ := h
  rcases List.mem_append.mp hd with hd | hd
  · obtain ⟨hmem, hne⟩ := List.mem_filter.mp hd
    refine .inr ⟨?_, d, hmem, hb, ht⟩
    intro he
    rw [hb, hc, he] at hne
    simp at hne
  · rw [List.mem_singleton.mp hd] at hb ht
    rw [hc] at hb
    cases hb
    exact .inl ⟨rfl, ht.symm⟩

theorem threadOf_markKilled {s : Session} {tab : TabId} {target : Option RequestId} {other : TabId}
    {thread : UInt64} (h : (s.markKilled tab target).threadOf other thread) :
    s.threadOf other thread := by
  unfold markKilled at h
  split at h
  · exact h
  · split at h
    · split at h <;> exact h
    · exact h

theorem tabsDrawn_markKilled (s : Session) (tab : TabId) (target : Option RequestId) :
    (s.markKilled tab target).tabsDrawn = s.tabsDrawn := by
  unfold markKilled
  split
  · rfl
  · split
    · split <;> rfl
    · rfl

end Session

/-! ## one stretch -/

namespace Wired
variable {s s' : Session} {as bs : List Await} {a : Await} {f : Flight}

theorem start (u : Setup) : Wired u.session [] := by
  have hno : ∀ tab thread, ¬ u.session.threadOf tab thread := by
    rintro tab thread ⟨c, hc, _⟩
    cases hc
  constructor
  · intro a ha
    cases ha
  · intro tab thread _ ht
    exact absurd ht (hno tab thread)
  · intro f hf
    cases hf
  · intro tab htab
    cases htab
  · intro tab htab
    cases htab
  · exact List.nodup_nil
  · intro tab thread ht
    exact absurd ht (hno tab thread)
  · intro f hf
    cases hf
  · intro tab htab
    cases htab

/-- the session has no more threads than before -/
theorem mono (h : Wired s as) (ht : ∀ tab thread, s'.threadOf tab thread → s.threadOf tab thread)
    (hd : s.tabsDrawn ≤ s'.tabsDrawn) : Wired s' as where
  bound := h.bound
  one := fun tab _ _ hth hth' => h.one tab _ _ (ht _ _ hth) (ht _ _ hth')
  out := fun f hf thread hth => h.out f hf thread (ht _ _ hth)
  bare := fun tab hmem thread hth => h.bare tab hmem thread (ht _ _ hth)
  quiet := h.quiet
  once := h.once
  drawnThread := fun tab thread hth => Nat.le_trans (h.drawnThread tab thread (ht _ _ hth)) hd
  drawnOut := fun f hf => Nat.le_trans (h.drawnOut f hf) hd
  drawnClone := fun tab hmem => Nat.le_trans (h.drawnClone tab hmem) hd

/-- other calls are out, but no other requests or clones -/
theorem congr (h : Wired s as) (hb : ∀ a ∈ bs, a.Bound) (hf : ∀ f ∈ flights bs, f ∈ flights as)
    (hc : ∀ tab ∈ clones bs, tab ∈ clones as) (hn : (clones bs).Nodup) : Wired s bs where
  bound := hb
  one := h.one
  out := fun f hmem => h.out f (hf f hmem)
  bare := fun tab hmem => h.bare tab (hc tab hmem)
  quiet := fun tab htab f hmem => h.quiet tab (hc tab htab) f (hf f hmem)
  once := hn
  drawnThread := h.drawnThread
  drawnOut := fun f hmem => h.drawnOut f (hf f hmem)
  drawnClone := fun tab hmem => h.drawnClone tab (hc tab hmem)

theorem perm (hab : as.Perm bs) (h : Wired s as) : Wired s bs :=
  h.congr (fun a ha => h.bound a (hab.mem_iff.mpr ha))
    (fun _ hf => (hab.filterMap Await.flight?).mem_iff.mpr hf)
    (fun _ hc => (hab.filterMap Await.clonesFor?).mem_iff.mpr hc)
    ((hab.filterMap Await.clonesFor?).nodup_iff.mp h.once)

theorem drop (h : Wired s (a :: as)) : Wired s as :=
  h.congr (fun b hb => h.bound b (List.mem_cons_of_mem a hb))
    (fun _ hf => ((List.sublist_cons_self a as).filterMap Await.flight?).subset hf)
    (fun _ hc => ((List.sublist_cons_self a as).filterMap Await.clonesFor?).subset hc)
    (h.once.sublist ((List.sublist_cons_self a as).filterMap Await.clonesFor?))

/-- a call that no request and no tab waits for is made -/
theorem cons (h : Wired s as) (hb : a.Bound) (hf : a.flight? = none) (hc : a.clonesFor? = none) :
    Wired s (a :: as) := by
  refine h.congr ?_ ?_ ?_ ?_
  · intro b hmem
    rcases List.mem_cons.mp hmem with rfl | hmem
    · exact hb
    · exact h.bound b hmem
  · rw [flights_cons_of_none hf]
    exact fun _ hmem => hmem
  · rw [clones_cons_of_none hc]
    exact fun _ hmem => hmem
  · rw [clones_cons_of_none hc]
    exact h.once

/-- a new tab waits for its connection -/
theorem clone (h : Wired s as) (hu : Upkeep s s') (hb : a.Bound) (hf : a.flight? = none)
    {tab : TabId} (hc : a.clonesFor? = some tab) (hlt : s.tabsDrawn < tab.number)
    (hle : tab.number ≤ s'.tabsDrawn) : Wired s' (a :: as) := by
  have h' := h.mono hu.threads hu.drawn
  have hfs := flights_cons_of_none hf as
  have hcs := clones_cons_of_some hc as
  exact {
    bound := by
      intro b hmem
      rcases List.mem_cons.mp hmem with rfl | hmem
      · exact hb
      · exact h.bound b hmem
    one := h'.one
    out := by
      rw [hfs]
      exact h'.out
    bare := by
      rw [hcs]
      intro other hmem thread hth
      rcases List.mem_cons.mp hmem with rfl | hmem
      · have hold := h.drawnThread _ _ (hu.threads _ _ hth)
        omega
      · exact h'.bare other hmem thread hth
    quiet := by
      rw [hcs, hfs]
      intro other hmem f hmemf htab
      rcases List.mem_cons.mp hmem with rfl | hmem
      · have hold := h.drawnOut f hmemf
        rw [htab] at hold
        omega
      · exact h'.quiet other hmem f hmemf htab
    once := by
      rw [hcs, List.nodup_cons]
      refine ⟨fun hmem => ?_, h.once⟩
      have hold := h.drawnClone tab hmem
      omega
    drawnThread := h'.drawnThread
    drawnOut := by
      rw [hfs]
      exact h'.drawnOut
    drawnClone := by
      rw [hcs]
      intro other hmem
      rcases List.mem_cons.mp hmem with rfl | hmem
      · exact hle
      · exact h'.drawnClone other hmem }

theorem housekeeping {st : Session.Step} (h : Wired s as) (hk : Housekeeping s st) :
    Wired st.1 (st.2.awaits ++ as) := by
  obtain ⟨s', p⟩ := st
  cases p with
  | ends r => exact h.mono hk.upkeep.threads hk.upkeep.drawn
  | waits a =>
    have hmem : a ∈ (Progress.waits a).awaits := List.mem_singleton_self a
    have hb := hk.bound a hmem
    have hf := hk.flights a hmem
    cases hc : a.clonesFor? with
    | none => exact (h.mono hk.upkeep.threads hk.upkeep.drawn).cons hb hf hc
    | some tab =>
      obtain ⟨hlt, hle⟩ := hk.clones a hmem tab hc
      exact h.clone hk.upkeep hb hf hc hlt hle

/-- a request goes out on the connection of its tab -/
theorem launch (h : Wired s as) (hb : a.Bound) (ha : a.flight? = some f)
    (hc : s.connectionOf f.tab = .ok f.sent.connection) : Wired (s.launch f) (a :: as) := by
  have hth := Session.threadOf_of_connectionOf hc
  have hfs := flights_cons_of_some ha as
  have hno : a.clonesFor? = none := by
    cases a <;> first | rfl | cases ha
  have hcs : clones (a :: as) = clones as := clones_cons_of_none hno as
  have h' : Wired (s.launch f) as := h.mono (fun _ _ ht => ht) (Nat.le_refl _)
  exact {
    bound := by
      intro b hmem
      rcases List.mem_cons.mp hmem with rfl | hmem
      · exact hb
      · exact h.bound b hmem
    one := h'.one
    out := by
      rw [hfs]
      intro g hg thread ht
      rcases List.mem_cons.mp hg with rfl | hg
      · exact h.one _ _ _ ht hth
      · exact h'.out g hg thread ht
    bare := by
      rw [hcs]
      exact h'.bare
    quiet := by
      rw [hcs, hfs]
      intro tab htab g hg hgt
      rcases List.mem_cons.mp hg with rfl | hg
      · exact h.bare tab htab _ (hgt ▸ hth)
      · exact h'.quiet tab htab g hg hgt
    once := by
      rw [hcs]
      exact h.once
    drawnThread := h'.drawnThread
    drawnOut := by
      rw [hfs]
      intro g hg
      rcases List.mem_cons.mp hg with rfl | hg
      · exact h'.drawnThread _ _ hth
      · exact h'.drawnOut g hg
    drawnClone := by
      rw [hcs]
      exact h'.drawnClone }

/-- the connection of a tab comes -/
theorem arrive {source : Connection} {tab : TabId} {next : AfterClone} {c : Connection}
    (h : Wired s (.cloning source tab next :: as)) (hc : c.binding = .tab tab) :
    Wired (s.mapConnections (·.insert c)) as := by
  have hd := h.drop
  have hmem : tab ∈ clones (.cloning source tab next :: as) := List.mem_cons_self
  have hnot : tab ∉ clones as := (List.nodup_cons.mp h.once).1
  exact {
    bound := hd.bound
    one := by
      intro other thread thread' ht ht'
      rcases Session.threadOf_insert hc ht with ⟨rfl, rfl⟩ | ⟨hne, ht⟩
      · rcases Session.threadOf_insert hc ht' with ⟨_, rfl⟩ | ⟨hne, _⟩
        · rfl
        · exact absurd rfl hne
      · rcases Session.threadOf_insert hc ht' with ⟨rfl, _⟩ | ⟨_, ht'⟩
        · exact absurd rfl hne
        · exact h.one other _ _ ht ht'
    out := by
      intro f hf thread ht
      rcases Session.threadOf_insert hc ht with ⟨he, _⟩ | ⟨_, ht⟩
      · exact absurd he (h.quiet tab hmem f hf)
      · exact hd.out f hf thread ht
    bare := by
      intro other hother thread ht
      rcases Session.threadOf_insert hc ht with ⟨rfl, _⟩ | ⟨_, ht⟩
      · exact hnot hother
      · exact hd.bare other hother thread ht
    quiet := hd.quiet
    once := hd.once
    drawnThread := by
      intro other thread ht
      rcases Session.threadOf_insert hc ht with ⟨rfl, _⟩ | ⟨_, ht⟩
      · exact h.drawnClone other hmem
      · exact hd.drawnThread other thread ht
    drawnOut := hd.drawnOut
    drawnClone := hd.drawnClone }

end Wired

/-! ## runs -/

theorem wired_kept : Kept Operation.NoClone Wired where
  perm := Wired.perm
  begin := by
    intro s as o ho h
    have hst := s.began o
    generalize o.begin s = st at hst ⊢
    cases hst with
    | keep hk => exact h.housekeeping hk
    | clone source tab => exact absurd rfl (ho source tab)
    | launch f ha hb hc _ => exact h.launch hb ha hc
    | stop _ _ _ => exact h.cons trivial rfl rfl
  resume := by
    intro s as a reply h
    have hst := s.resumed reply (h.bound a List.mem_cons_self)
    generalize s.resume a reply = st at hst ⊢
    cases hst with
    | keep _ hk => exact h.drop.housekeeping hk
    | arrive hc _ => exact h.arrive hc
    | switch _ _ =>
      refine h.congr ?_ (fun _ hf => hf) (fun _ hc => hc) h.once
      intro b hb
      rcases List.mem_cons.mp hb with rfl | hb
      · trivial
      · exact h.bound b (List.mem_cons_of_mem _ hb)
    | land f _ ht _ => exact h.drop.mono ht.threads (Nat.le_of_eq ht.drawn.symm)
    | acknowledge _ =>
      exact h.drop.mono (fun _ _ => Session.threadOf_markKilled)
        (Nat.le_of_eq (Session.tabsDrawn_markKilled ..).symm)
  deed := by
    intro s as d h
    cases d with
    | refreshLastTab tab =>
      simp only [Deed.apply, Session.refreshLastTab]
      cases s.store.tabs.tab? tab with
      | none => exact h
      | some x => exact h.mono (fun _ _ ht => ht) (Nat.le_refl _)
    | _ => exact h.mono (fun _ _ ht => ht) (Nat.le_refl _)
  pass := fun _ h => h.mono (fun _ _ ht => ht) (Nat.le_refl _)

theorem Traffic.wired_after (u : Setup) {run : List Event}
    (hrun : ∀ o, .begin o ∈ run → o.NoClone) : Wired (after u run).session (after u run).awaits :=
  wired_kept.after (.start u) hrun

end QueryDesk
