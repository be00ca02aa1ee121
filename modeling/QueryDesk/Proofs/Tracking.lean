import QueryDesk.Proofs.Agreement

/-!
# Every memory keeps track of the requests that are out

`Tracked s as` says of a session `s`, when the calls `as` are out, that the requests that are out
are pairwise different, that no token is cancelled twice, and that the memory of every tab agrees
with the requests that are out.  Whatever can happen keeps it (`tracked_kept`), so it holds after
every run (`Traffic.tracked_after`).
-/

namespace QueryDesk

structure Tracked (s : Session) (as : List Await) : Prop where
  bound : ∀ a ∈ as, a.Bound
  distinct : ((flights as).map Flight.request).Nodup
  sent : ∀ f ∈ flights as, f.request.number ≤ s.requestsSent
  cancelled : ∀ token ∈ s.cancelled, token.number ≤ s.requestsSent
  once : s.cancelled.Nodup
  drawn : ∀ tab m, s.memory? tab = some m → tab.number ≤ s.tabsDrawn
  agrees : ∀ tab m, s.memory? tab = some m →
    m.Agrees tab s.requestsSent s.cancelled (flights as)

namespace Tracked
variable {s s' : Session} {as bs : List Await} {a : Await} {f : Flight}

theorem start (u : Setup) : Tracked u.session [] where
  bound := by
    intro a ha
    cases ha
  distinct := List.nodup_nil
  sent := by
    intro f hf
    cases hf
  cancelled := by
    intro token ht
    cases ht
  once := List.nodup_nil
  drawn := by
    intro tab m hm
    cases hm
  agrees := by
    intro tab m hm
    cases hm

/-! ## the calls that are out -/

theorem congr (h : Tracked s as) (hb : ∀ a ∈ bs, a.Bound) (hf : (flights as).Perm (flights bs)) :
    Tracked s bs where
  bound := hb
  distinct := (hf.map Flight.request).nodup_iff.mp h.distinct
  sent := fun f hmem => h.sent f (hf.mem_iff.mpr hmem)
  cancelled := h.cancelled
  once := h.once
  drawn := h.drawn
  agrees := fun tab m hm => (h.agrees tab m hm).congr fun _ => hf.mem_iff

theorem perm (hab : as.Perm bs) (h : Tracked s as) : Tracked s bs :=
  h.congr (fun a ha => h.bound a (hab.mem_iff.mpr ha)) (hab.filterMap Await.flight?)

/-- a call that no request waits for is made, or answered -/
theorem cons (h : Tracked s as) (hb : a.Bound) (ha : a.flight? = none) : Tracked s (a :: as) := by
  refine h.congr ?_ ?_
  · intro b hmem
    rcases List.mem_cons.mp hmem with rfl | hmem
    · exact hb
    · exact h.bound b hmem
  · rw [flights_cons_of_none ha]

theorem drop (h : Tracked s (a :: as)) (ha : a.flight? = none) : Tracked s as := by
  refine h.congr (fun b hb => h.bound b (List.mem_cons_of_mem a hb)) ?_
  rw [flights_cons_of_none ha]

/-! ## work on worksheets, tabs and connections -/

theorem upkeep (h : Tracked s as) (hk : Upkeep s s') : Tracked s' as where
  bound := h.bound
  distinct := h.distinct
  sent := by
    rw [hk.requests]
    exact h.sent
  cancelled := by
    rw [hk.requests, hk.cancelled]
    exact h.cancelled
  once := by
    rw [hk.cancelled]
    exact h.once
  drawn := by
    intro tab m hm
    have hd := hk.drawn
    rcases hk.memory tab with e | e | ⟨_, hle, _⟩
    · have := h.drawn tab m (e.symm.trans hm)
      omega
    · rw [e] at hm
      cases hm
    · exact hle
  agrees := by
    intro tab m hm
    rw [hk.requests, hk.cancelled]
    rcases hk.memory tab with e | e | ⟨_, _, e⟩
    · exact h.agrees tab m (e.symm.trans hm)
    · rw [e] at hm
      cases hm
    · rw [e] at hm
      cases hm
      exact .empty

theorem housekeeping {st : Session.Step} (h : Tracked s as) (hk : Housekeeping s st) :
    Tracked st.1 (st.2.awaits ++ as) := by
  refine (h.upkeep hk.upkeep).congr ?_ ?_
  · intro b hmem
    rcases List.mem_append.mp hmem with hmem | hmem
    · exact hk.bound b hmem
    · exact h.bound b hmem
  · have hnil : flights st.2.awaits = [] := List.filterMap_eq_nil_iff.mpr hk.flights
    rw [flights_append, hnil, List.nil_append]

/-! ## requests -/

theorem launch (h : Tracked s as) (hb : a.Bound) (ha : a.flight? = some f)
    (hr : f.request = s.drawRequest.1) : Tracked (s.launch f) (a :: as) := by
  have hnum : f.request.number = s.requestsSent + 1 := congrArg RequestId.number hr
  have hfs : flights (a :: as) = f :: flights as := flights_cons_of_some ha as
  exact {
    bound := by
      intro b hmem
      rcases List.mem_cons.mp hmem with rfl | hmem
      · exact hb
      · exact h.bound b hmem
    distinct := by
      rw [hfs, List.map_cons, List.nodup_cons]
      refine ⟨fun hmem => ?_, h.distinct⟩
      obtain ⟨g, hg, hgr⟩ := List.mem_map.mp hmem
      have hle := h.sent g hg
      rw [hgr] at hle
      omega
    sent := by
      rw [hfs]
      intro g hg
      show g.request.number ≤ s.requestsSent + 1
      rcases List.mem_cons.mp hg with rfl | hg
      · omega
      · have hle := h.sent g hg
        omega
    cancelled := fun token ht => Nat.le_succ_of_le (h.cancelled token ht)
    once := h.once
    drawn := by
      intro tab m hm
      rcases Session.memory?_launch_cases hm with ⟨m', rfl, hm', _⟩ | ⟨_, hm'⟩
      · exact h.drawn f.tab m' hm'
      · exact h.drawn tab m hm'
    agrees := by
      intro tab m hm
      rw [hfs]
      show m.Agrees tab (s.requestsSent + 1) s.cancelled _
      rcases Session.memory?_launch_cases hm with ⟨m', rfl, hm', rfl⟩ | ⟨_, hm'⟩
      · exact (h.agrees f.tab m' hm').launch hnum h.sent h.cancelled
      · exact (h.agrees tab m hm').add hnum }

theorem touchdown (h : Tracked s (a :: as)) (ha : a.flight? = some f) (ht : Touchdown f s s') :
    Tracked s' as := by
  have hfs : flights (a :: as) = f :: flights as := flights_cons_of_some ha as
  have hdis := h.distinct
  have hsent := h.sent
  have hagr := h.agrees
  rw [hfs] at hdis hsent hagr
  rw [List.map_cons, List.nodup_cons] at hdis
  exact {
    bound := fun b hb => h.bound b (List.mem_cons_of_mem a hb)
    distinct := hdis.2
    sent := by
      rw [ht.requests]
      exact fun g hg => hsent g (List.mem_cons_of_mem f hg)
    cancelled := by
      rw [ht.requests, ht.cancelled]
      exact h.cancelled
    once := by
      rw [ht.cancelled]
      exact h.once
    drawn := by
      intro tab m hm
      rw [ht.drawn]
      rcases ht.memory?_cases hm with ⟨m₀, _, hm₀, _⟩ | ⟨hm₀, _⟩
      · exact h.drawn tab m₀ hm₀
      · exact h.drawn tab m hm₀
    agrees := by
      intro tab m hm
      rw [ht.requests, ht.cancelled]
      rcases ht.memory?_cases hm with ⟨m₀, rfl, hm₀, ho, hl⟩ | ⟨hm₀, hne⟩
      · exact (hagr f.tab m₀ hm₀).lands hl ho hdis.1
      · -- the request owns no slot here: it is out for one place only, which it has lost
        have hagree := hagr tab m hm₀
        refine hagree.remove fun place ho => ?_
        obtain ⟨htab, hp⟩ := hagree.placed f List.mem_cons_self place ho
        exact hne htab.symm (hp ▸ ho) }

/-! ## stops -/

/-- a stop that is acknowledged changes nothing, unless its request still runs -/
theorem markKilled_cases (h : Tracked s as) (tab : TabId) (target : Option RequestId) :
    s.markKilled tab target = s ∨
    ∃ m r, s.memory? tab = some m ∧ target = some r ∧ m.running? = some r ∧
      s.markKilled tab target = (s.remember tab (·.requestKill)).cancel ⟨r.number⟩ := by
  by_cases hrun : ∃ m r, s.memory? tab = some m ∧ target = some r ∧ m.running? = some r
  · obtain ⟨m, r, hm, rfl, hr⟩ := hrun
    obtain ⟨hocc, _⟩ := (h.agrees tab m hm).phase.of_running hr
    exact .inr ⟨m, r, hm, rfl, hr, s.markKilled_of_running hm hr hocc.abort⟩
  · exact .inl (s.markKilled_of_not_running fun m hm r ht hr => hrun ⟨m, r, hm, ht, hr⟩)

theorem markKilled (h : Tracked s as) (tab : TabId) (target : Option RequestId) :
    Tracked (s.markKilled tab target) as := by
  rcases h.markKilled_cases tab target with he | ⟨m, r, hm, _, hr, he⟩
  · rw [he]
    exact h
  · have hagree := h.agrees tab m hm
    obtain ⟨hocc, hnew⟩ := hagree.phase.of_running hr
    -- the request that is stopped is out for this tab, and only for it
    have honly : ∀ f ∈ flights as, f.request = r → f.tab = tab := by
      intro f hf hfr
      exact (hagree.placed f hf .query (hfr ▸ hocc.owner)).1
    rw [he]
    exact {
      bound := h.bound
      distinct := h.distinct
      sent := h.sent
      cancelled := by
        intro token ht
        rcases List.mem_cons.mp ht with rfl | ht
        · exact hagree.sent .query r hocc.owner
        · exact h.cancelled token ht
      once := List.nodup_cons.mpr ⟨hnew, h.once⟩
      drawn := by
        intro other m' hm'
        rcases Session.memory?_remember_cases hm' with ⟨m₀, rfl, hm₀, _⟩ | ⟨_, hm₀⟩
        · exact h.drawn other m₀ hm₀
        · exact h.drawn other m' hm₀
      agrees := by
        intro other m' hm'
        rcases Session.memory?_remember_cases hm' with ⟨m₀, rfl, hm₀, rfl⟩ | ⟨hne, hm₀⟩
        · rw [hm] at hm₀
          cases hm₀
          exact hagree.requestKill hr
        · refine (h.agrees other m' hm₀).cancel fun f hf hfr htab => ?_
          exact hne (htab.symm.trans (honly f hf hfr)) }

/-! ## what is done without the server -/

/-- the memory of a tab is changed to one that agrees with the requests that are out -/
theorem remember (h : Tracked s as) (tab : TabId) (g : TabMemory → TabMemory)
    (hg : ∀ m, m.Agrees tab s.requestsSent s.cancelled (flights as) →
      (g m).Agrees tab s.requestsSent s.cancelled (flights as)) :
    Tracked (s.remember tab g) as where
  bound := h.bound
  distinct := h.distinct
  sent := h.sent
  cancelled := h.cancelled
  once := h.once
  drawn := by
    intro other m hm
    rcases Session.memory?_remember_cases hm with ⟨m₀, rfl, hm₀, _⟩ | ⟨_, hm₀⟩
    · exact h.drawn other m₀ hm₀
    · exact h.drawn other m hm₀
  agrees := by
    intro other m hm
    rcases Session.memory?_remember_cases hm with ⟨m₀, rfl, hm₀, rfl⟩ | ⟨_, hm₀⟩
    · exact hg m₀ (h.agrees other m₀ hm₀)
    · exact h.agrees other m hm₀

theorem deed (h : Tracked s as) (d : Deed) : Tracked (d.apply s) as := by
  cases d with
  | createWorksheet name => exact h.upkeep (.createWorksheet s name)
  | refreshLastTab tab =>
    cases ht : s.store.tabs.tab? tab with
    | none =>
      have he : (Deed.refreshLastTab tab).apply s = s := by
        simp only [Deed.apply, Session.refreshLastTab, ht]
      rw [he]
      exact h
    | some x =>
      have he : (Deed.refreshLastTab tab).apply s =
          (s.mapTabs (·.refreshTab tab)).remember tab fun _ => TabMemory.empty := by
        simp only [Deed.apply, Session.refreshLastTab, ht]
        rfl
      rw [he]
      exact (h.upkeep (.mapTabs s _)).remember tab _ fun _ _ => .empty
  | clearPreviews tab => exact h.remember tab _ fun _ hm => hm.clearPreviews
  | edit tab e => exact h.upkeep (.mapTabs s (·.edit tab e))
  | bindFile tab path => exact h.upkeep (.mapTabs s (·.bindFile tab path))
  | drainNotices => exact h.upkeep { Upkeep.refl s with }

theorem pass (h : Tracked s as) (nanos : Int) : Tracked (s.advance nanos) as :=
  h.upkeep { Upkeep.refl s with }

end Tracked

/-! ## runs -/

/-- whatever can happen keeps track of the requests that are out -/
theorem tracked_kept : Kept (fun _ => True) Tracked where
  perm := Tracked.perm
  begin := by
    intro s as o _ h
    have hst := s.began o
    generalize o.begin s = st at hst ⊢
    cases hst with
    | keep hk => exact h.housekeeping hk
    | clone source tab => exact h.cons trivial rfl
    | launch f ha hb _ hr => exact h.launch hb ha hr
    | stop _ _ _ => exact h.cons trivial rfl
  resume := by
    intro s as a reply h
    have hst := s.resumed reply (h.bound a List.mem_cons_self)
    generalize s.resume a reply = st at hst ⊢
    cases hst with
    | keep ha hk => exact (h.drop ha).housekeeping hk
    | arrive _ _ => exact { h.drop rfl with }
    | switch _ _ =>
      refine h.congr ?_ (List.Perm.refl _)
      intro b hb
      rcases List.mem_cons.mp hb with rfl | hb
      · trivial
      · exact h.bound b (List.mem_cons_of_mem _ hb)
    | land f ha ht _ => exact h.touchdown ha ht
    | acknowledge _ => exact (h.drop rfl).markKilled _ _
  deed := fun d h => h.deed d
  pass := fun nanos h => h.pass nanos

theorem Traffic.tracked_after (u : Setup) (run : List Event) :
    Tracked (after u run).session (after u run).awaits :=
  tracked_kept.after (.start u) fun _ _ => trivial

end QueryDesk
