import QueryDesk.Proofs.Isolation

/-!
# What is not there

An operation looks for all that it needs before it changes anything or calls the server.

* `Operation.worksheet?`   the worksheet that an operation works for, `Operation.speaks` whether it
  sends a statement for its tab;
* `Session.Lacks s o m`    of what the operation needs something is not there, `m` first of all;
* `Traffic.FailsFor`       an operation has failed for want of it, and nothing else has happened;
* `Traffic.Proceeds`       it has not failed: its first call is made, or it has succeeded.

**`Traffic.absence_fails`**: an operation that lacks something fails for want of it and leaves no
trace; one that lacks nothing proceeds.
-/

namespace QueryDesk

def Operation.worksheet? : Operation → Option WorksheetId
  | addTab w _ | openConnection w _ => some w
  | _ => none

def Operation.speaks : Operation → Bool
  | preview .. | query .. | stop _ => true
  | _ => false

/-- the operation works for a worksheet or a tab that has to be there -/
def Operation.isNeedy (o : Operation) : Bool := o.worksheet?.isSome || o.tab?.isSome

namespace Session

/-- the connection on which a query is stopped comes last: that of the worksheet of its tab -/
inductive Lacks (s : Session) : Operation → Missing → Prop where
  | worksheet {o w} (ho : o.worksheet? = some w) (h : w ∉ s.store.tabs.worksheetIds) :
    Lacks s o (.worksheet w)
  | tab {o tab} (ho : o.tab? = some tab) (h : tab ∉ s.store.tabs.tabIds) : Lacks s o (.tab tab)
  | tabConnection {o tab} (ho : o.tab? = some tab) (hs : o.speaks = true)
    (ht : tab ∈ s.store.tabs.tabIds) (h : .tab tab ∉ s.store.connections.bindings) :
    Lacks s o (.tabConnection tab)
  | worksheetConnection {tab x} (hx : s.store.tabs.tab? tab = some x)
    (hc : .tab tab ∈ s.store.connections.bindings)
    (h : .worksheet x.worksheet ∉ s.store.connections.bindings) :
    Lacks s (.stop tab) (.worksheetConnection x.worksheet)

variable {s : Session} {o : Operation} {m : Missing} {tab : TabId} {w : WorksheetId}

/-! ## looking things up -/

theorem connectionOf_of_absent (h : tab ∉ s.store.tabs.tabIds) :
    s.connectionOf tab = .error (.notFound (.tab tab)) := by
  simp only [connectionOf, Tabs.tab?_eq_none.mpr h]

theorem connectionOf_of_unbound (ht : tab ∈ s.store.tabs.tabIds)
    (h : .tab tab ∉ s.store.connections.bindings) :
    s.connectionOf tab = .error (.notFound (.tabConnection tab)) := by
  have hc : s.store.connections.ofTab? tab = none := Connections.bound?_eq_none.mpr h
  obtain ⟨x, hx⟩ := Tabs.exists_tab? ht
  simp only [connectionOf, hx, hc]

theorem exists_connectionOf (ht : tab ∈ s.store.tabs.tabIds)
    (h : .tab tab ∈ s.store.connections.bindings) : ∃ c, s.connectionOf tab = .ok c := by
  obtain ⟨x, hx⟩ := Tabs.exists_tab? ht
  obtain ⟨c, hc⟩ := Connections.exists_bound? h
  have hc : s.store.connections.ofTab? tab = some c := hc
  exact ⟨c, by simp only [connectionOf, hx, hc]⟩

/-! ## failing -/

/-- a tab that could not be added has drawn its number, and no more -/
theorem beginTab_of_absent (h : w ∉ s.store.tabs.worksheetIds) (name : Option String)
    (next : AfterClone) : s.beginTab w name next = s.drawTab.2.fail (.notFound (.worksheet w)) := by
  have hw : s.drawTab.2.store.tabs.worksheet? w = none := Tabs.worksheet?_eq_none.mpr h
  simp only [beginTab, hw]

/-- an operation that sends a statement fails as the search for the connection of its tab does -/
theorem begin_of_connectionOf {e : ConsoleError} (ho : o.tab? = some tab)
    (hs : o.speaks = true) (h : s.connectionOf tab = .error e) : o.begin s = s.fail e := by
  cases o with
  | preview other target mode =>
    cases ho
    simp only [Operation.begin, preview, h]
  | query other sql =>
    cases ho
    simp only [Operation.begin, query, h]
  | stop other =>
    cases ho
    cases hx : s.store.tabs.tab? tab with
    | none =>
      simp only [connectionOf, hx] at h
      cases h
      simp only [Operation.begin, stop, hx]
    | some x => simp only [Operation.begin, stop, hx, h]
  | _ => cases hs

/-- an operation that lacks something changes nothing -/
theorem begin_of_lacks (h : s.Lacks o m) :
    ∃ drawn, o.begin s = ({ s with tabsDrawn := drawn }, .ends (.error (.notFound m))) := by
  cases h with
  | @worksheet o w ho h =>
    cases o with
    | addTab v name =>
      cases ho
      exact ⟨_, beginTab_of_absent h name _⟩
    | openConnection v params =>
      cases ho
      refine ⟨s.tabsDrawn, ?_⟩
      simp only [Operation.begin, openConnection, beginOpen, Tabs.worksheet?_eq_none.mpr h]
      rfl
    | _ => cases ho
  | @tab o tab ho h =>
    refine ⟨s.tabsDrawn, ?_⟩
    by_cases hs : o.speaks = true
    · exact begin_of_connectionOf ho hs (connectionOf_of_absent h)
    · cases o with
      | deleteTab other =>
        cases ho
        simp only [Operation.begin, deleteTab, Tabs.tab?_eq_none.mpr h]
        rfl
      | preview | query | stop => exact absurd rfl hs
      | _ => cases ho
  | @tabConnection o tab ho hs ht h =>
    exact ⟨s.tabsDrawn, begin_of_connectionOf ho hs (connectionOf_of_unbound ht h)⟩
  | @worksheetConnection tab x hx hc h =>
    obtain ⟨c, hc⟩ := exists_connectionOf (Tabs.mem_tabIds hx) hc
    have hv : s.store.connections.ofWorksheet? x.worksheet = none :=
      Connections.bound?_eq_none.mpr h
    refine ⟨s.tabsDrawn, ?_⟩
    simp only [Operation.begin, stop, hx, hc, hv]
    rfl

/-! ## proceeding -/

section
variable (h : ∀ m, ¬ s.Lacks o m)
include h

theorem worksheet_of_present (ho : o.worksheet? = some w) :
    ∃ x, s.store.tabs.worksheet? w = some x := by
  refine Option.ne_none_iff_exists'.mp fun hx => ?_
  exact h _ (.worksheet ho (Tabs.worksheet?_eq_none.mp hx))

theorem tab_of_present (ho : o.tab? = some tab) : ∃ x, s.store.tabs.tab? tab = some x := by
  refine Option.ne_none_iff_exists'.mp fun hx => ?_
  exact h _ (.tab ho (Tabs.tab?_eq_none.mp hx))

theorem bound_of_present (ho : o.tab? = some tab) (hs : o.speaks = true) :
    .tab tab ∈ s.store.connections.bindings := by
  obtain ⟨x, hx⟩ := tab_of_present h ho
  by_contra hb
  exact h _ (.tabConnection ho hs (Tabs.mem_tabIds hx) hb)

theorem connection_of_present (ho : o.tab? = some tab) (hs : o.speaks = true) :
    ∃ c, s.connectionOf tab = .ok c := by
  obtain ⟨x, hx⟩ := tab_of_present h ho
  exact exists_connectionOf (Tabs.mem_tabIds hx) (bound_of_present h ho hs)

end

/-- the first stretch makes a call, or ends well -/
inductive Sets : Progress → Prop where
  | waits (a : Await) : Sets (.waits a)
  | ends (r : Outcome) : Sets (.ends (.ok r))

/-- an operation that lacks nothing does not fail in its first stretch -/
theorem begin_of_present (hn : o.isNeedy = true) (h : ∀ m, ¬ s.Lacks o m) :
    Sets (o.begin s).2 := by
  cases o with
  | addTab w name =>
    obtain ⟨x, hx⟩ := worksheet_of_present h rfl
    have hx : s.drawTab.2.store.tabs.worksheet? w = some x := hx
    simp only [Operation.begin, addTab, beginTab, hx]
    split
    · exact .waits _
    · exact .ends _
  | openConnection w params =>
    obtain ⟨x, hx⟩ := worksheet_of_present h rfl
    simp only [Operation.begin, openConnection, beginOpen, hx]
    exact .waits _
  | deleteTab tab =>
    obtain ⟨x, hx⟩ := tab_of_present h rfl
    simp only [Operation.begin, deleteTab, hx]
    split
    · exact .waits _
    · exact .ends _
  | preview tab target mode =>
    obtain ⟨c, hc⟩ := connection_of_present h rfl rfl
    simp only [Operation.begin, preview, hc]
    exact .waits _
  | query tab sql =>
    obtain ⟨c, hc⟩ := connection_of_present h rfl rfl
    simp only [Operation.begin, query, hc]
    exact .waits _
  | stop tab =>
    obtain ⟨x, hx⟩ := tab_of_present h rfl
    obtain ⟨c, hc⟩ := connection_of_present h rfl rfl
    cases hv : s.store.connections.ofWorksheet? x.worksheet with
    | none =>
      have hb := Connections.not_mem_bindings_of_bound? hv
      exact absurd (.worksheetConnection hx (bound_of_present h rfl rfl) hb) (h _)
    | some via =>
      simp only [Operation.begin, stop, hx, hc, hv]
      exact .waits _
  | _ => cases hn

theorem refreshLastTab_of_absent (h : tab ∉ s.store.tabs.tabIds) :
    s.refreshLastTab tab = .error (.notFound (.tab tab)) := by
  simp only [refreshLastTab, Tabs.tab?_eq_none.mpr h]

theorem exists_refreshLastTab (h : tab ∈ s.store.tabs.tabIds) :
    ∃ s', s.refreshLastTab tab = .ok s' := by
  obtain ⟨x, hx⟩ := Tabs.exists_tab? h
  refine ⟨(s.mapTabs (·.refreshTab tab)).mapMemory (·.reset tab), ?_⟩
  simp only [refreshLastTab, hx]

end Session

namespace Traffic

structure FailsFor (t : Traffic) (o : Operation) (m : Missing) : Prop where
  ending : (t.step (.begin o)).endings = t.endings ++ [⟨t.tasks + 1, .error (.notFound m)⟩]
  store : (t.step (.begin o)).session.store = t.session.store
  log : (t.step (.begin o)).session.log = t.session.log
  notices : (t.step (.begin o)).session.notices = t.session.notices
  cancelled : (t.step (.begin o)).session.cancelled = t.session.cancelled
  server : (t.step (.begin o)).server = t.server
  pending : (t.step (.begin o)).pending = t.pending

def Proceeds (t : Traffic) (o : Operation) : Prop :=
  (∃ c, t.Makes (.begin o) c) ∨
    ∃ r, (t.step (.begin o)).endings = t.endings ++ [⟨t.tasks + 1, .ok r⟩]

theorem failsFor_of_lacks {t : Traffic} {o : Operation} {m : Missing} (h : t.session.Lacks o m) :
    t.FailsFor o m := by
  obtain ⟨drawn, hst⟩ := Session.begin_of_lacks h
  have hstep : t.step (.begin o) = { t with
      session := { t.session with tabsDrawn := drawn }
      tasks := t.tasks + 1
      endings := t.endings ++ [⟨t.tasks + 1, .error (.notFound m)⟩] } := by
    rw [step, hst]
    rfl
  constructor <;> rw [hstep]

theorem proceeds_of_present {t : Traffic} {o : Operation} (hn : o.isNeedy = true)
    (h : ∀ m, ¬ t.session.Lacks o m) : t.Proceeds o := by
  have hset := Session.begin_of_present hn h
  have hcalls := calls_goOn { t with tasks := t.tasks + 1 } (t.tasks + 1) (o.begin t.session)
  unfold Proceeds Makes
  rw [step, hcalls]
  generalize o.begin t.session = st at hset ⊢
  obtain ⟨s, p⟩ := st
  cases hset with
  | waits a => exact .inl ⟨a.call, rfl⟩
  | ends r => exact .inr ⟨r, rfl⟩

/-- **What is not there fails without a trace, and nothing else fails before it has begun**,
whatever has happened before. -/
theorem absence_fails (t : Traffic) :
    (∀ o m, t.session.Lacks o m → t.FailsFor o m) ∧
    (∀ o : Operation, o.isNeedy = true → (∀ m, ¬ t.session.Lacks o m) → t.Proceeds o) ∧
    ∀ tab,
      (tab ∉ t.session.store.tabs.tabIds →
        t.session.refreshLastTab tab = .error (.notFound (.tab tab)) ∧
        t.step (.deed (.refreshLastTab tab)) = t) ∧
      (tab ∈ t.session.store.tabs.tabIds →
        t.session.refreshLastTab tab = .ok (t.step (.deed (.refreshLastTab tab))).session) := by
  refine ⟨fun o m => failsFor_of_lacks, fun o => proceeds_of_present, fun tab => ⟨fun h => ?_,
    fun h => ?_⟩⟩
  · have hr := Session.refreshLastTab_of_absent h
    refine ⟨hr, ?_⟩
    simp only [step, Deed.apply, hr]
  · obtain ⟨s', hr⟩ := Session.exists_refreshLastTab h
    simp only [step, Deed.apply, hr]

/-- a tab without a connection can be deleted and made new, and no query in it can be stopped -/
theorem absence_fails_unbound :
    let t := after ⟨100, 10, 0⟩ [.begin (.addTab ⟨1⟩ none), .deed (.createWorksheet "w")]
    (t.session.Lacks (.stop ⟨1⟩) (.tabConnection ⟨1⟩) ∧
      t.FailsFor (.stop ⟨1⟩) (.tabConnection ⟨1⟩)) ∧
    ((∀ m, ¬ t.session.Lacks (.deleteTab ⟨1⟩) m) ∧ t.Proceeds (.deleteTab ⟨1⟩)) ∧
    (⟨2⟩ ∉ t.session.store.tabs.tabIds ∧ t.step (.deed (.refreshLastTab ⟨2⟩)) = t) ∧
    ⟨1⟩ ∈ t.session.store.tabs.tabIds ∧
      t.session.refreshLastTab ⟨1⟩ = .ok (t.step (.deed (.refreshLastTab ⟨1⟩))).session := by
  intro t
  obtain ⟨hfails, hproceeds, hrefresh⟩ := absence_fails t
  have ht : ⟨1⟩ ∈ t.session.store.tabs.tabIds := by decide +kernel
  have hno : ⟨2⟩ ∉ t.session.store.tabs.tabIds := by decide +kernel
  have hlacks : t.session.Lacks (.stop ⟨1⟩) (.tabConnection ⟨1⟩) :=
    .tabConnection rfl rfl ht (by decide +kernel)
  have hall : ∀ m, ¬ t.session.Lacks (.deleteTab ⟨1⟩) m := by
    intro m h
    cases h with
    | worksheet ho _ => cases ho
    | tab ho h =>
      cases ho
      exact h ht
    | tabConnection _ hs _ _ => cases hs
  exact ⟨⟨hlacks, hfails _ _ hlacks⟩, ⟨hall, hproceeds _ rfl hall⟩,
    ⟨hno, ((hrefresh ⟨2⟩).1 hno).2⟩, ht, (hrefresh ⟨1⟩).2 ht⟩

end Traffic

end QueryDesk
