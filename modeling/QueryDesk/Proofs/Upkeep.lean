import QueryDesk.Proofs.Places

/-!
# Work on worksheets, tabs and connections

* `Session.memory?`, `threadOf`   what is looked at: the memory of a tab, the threads of its
  connections;
* `Upkeep s s'`       what all work on worksheets, tabs and connections keeps of a session;
* `Housekeeping s st` a stretch of such work, up to its next call or its end.

One lemma for each of the operations says that it is housekeeping.
-/

namespace QueryDesk

namespace Session

def memory? (s : Session) (tab : TabId) : Option TabMemory := s.store.memory.get? tab

theorem memory?_remember (s : Session) (tab other : TabId) (g : TabMemory → TabMemory) :
    (s.remember tab g).memory? other =
      if other = tab then (s.memory? tab).map g else s.memory? other :=
  Table.get?_modify ..

theorem memory?_remember_cases {s : Session} {tab other : TabId} {g : TabMemory → TabMemory}
    {m' : TabMemory} (h : (s.remember tab g).memory? other = some m') :
    (∃ m, other = tab ∧ s.memory? tab = some m ∧ g m = m') ∨
      (other ≠ tab ∧ s.memory? other = some m') := by
  rw [memory?_remember] at h
  split at h
  · next he =>
    obtain ⟨m, hm, hg⟩ := Option.map_eq_some_iff.mp h
    exact .inl ⟨m, he, hm, hg⟩
  · next hne => exact .inr ⟨hne, h⟩

theorem memory?_dropTab (s : Session) (tab other : TabId) :
    (s.dropTab tab).memory? other = if other = tab then none else s.memory? other :=
  Table.get?_erase ..

theorem memory?_insertTab (s : Session) (x : QueryTab) (other : TabId) :
    (s.insertTab x).memory? other =
      if other = x.id then some TabMemory.empty else s.memory? other :=
  Table.get?_insert ..

/-- a connection of the tab runs on this thread -/
def threadOf (s : Session) (tab : TabId) (thread : UInt64) : Prop :=
  ∃ c ∈ s.store.connections.records, c.binding = .tab tab ∧ c.thread = thread

end Session

/-! ## upkeep -/

/-- what work on worksheets, tabs and connections keeps: no request goes out or ends, memories stay
or go, and those that come are empty and belong to new tabs; a tab does not change its thread -/
structure Upkeep (s s' : Session) : Prop where
  requests : s'.requestsSent = s.requestsSent
  cancelled : s'.cancelled = s.cancelled
  log : s'.log = s.log
  drawn : s.tabsDrawn ≤ s'.tabsDrawn
  memory : ∀ tab, s'.memory? tab = s.memory? tab ∨ s'.memory? tab = none ∨
    (s.tabsDrawn < tab.number ∧ tab.number ≤ s'.tabsDrawn ∧ s'.memory? tab = some TabMemory.empty)
  threads : ∀ tab thread, s'.threadOf tab thread → s.threadOf tab thread

namespace Upkeep

theorem refl (s : Session) : Upkeep s s where
  requests := rfl
  cancelled := rfl
  log := rfl
  drawn := Nat.le_refl _
  memory := fun _ => .inl rfl
  threads := fun _ _ h => h

theorem trans {s s' s'' : Session} (h : Upkeep s s') (h' : Upkeep s' s'') : Upkeep s s'' where
  requests := h'.requests.trans h.requests
  cancelled := h'.cancelled.trans h.cancelled
  log := h'.log.trans h.log
  drawn := Nat.le_trans h.drawn h'.drawn
  memory := by
    intro tab
    have hd := h.drawn
    have hd' := h'.drawn
    rcases h'.memory tab with e' | e' | ⟨hlt', hle', e'⟩
    · rw [e']
      rcases h.memory tab with e | e | ⟨hlt, hle, e⟩
      · exact .inl e
      · exact .inr (.inl e)
      · exact .inr (.inr ⟨hlt, by omega, e⟩)
    · exact .inr (.inl e')
    · exact .inr (.inr ⟨by omega, hle', e'⟩)
  threads := fun tab thread ht => h.threads tab thread (h'.threads tab thread ht)

theorem mapTabs (s : Session) (g : Tabs → Tabs) : Upkeep s (s.mapTabs g) := { refl s with }

theorem mapConnections (s : Session) (g : Connections → Connections)
    (h : ∀ tab thread, (s.mapConnections g).threadOf tab thread → s.threadOf tab thread) :
    Upkeep s (s.mapConnections g) :=
  { refl s with threads := h }

/-- a connection that is no tab's own -/
theorem insertConnection (s : Session) {c : Connection} {w : WorksheetId}
    (hc : c.binding = .worksheet w) : Upkeep s (s.mapConnections (·.insert c)) := by
  refine mapConnections s _ fun tab thread => ?_
  rintro ⟨d, hd, hb, ht⟩
  rcases List.mem_append.mp hd with hd | hd
  · exact ⟨d, (List.mem_filter.mp hd).1, hb, ht⟩
  · rw [List.mem_singleton.mp hd, hc] at hb
    cases hb

theorem forget (s : Session) (c : ConnectionId) : Upkeep s (s.forget c) := by
  refine mapConnections s _ fun tab thread => ?_
  rintro ⟨d, hd, hb, ht⟩
  exact ⟨d, (List.mem_filter.mp hd).1, hb, ht⟩

theorem setDatabase (s : Session) (c : ConnectionId) (set : ResultSet) :
    Upkeep s (s.setDatabase c set) := by
  refine mapConnections s _ fun tab thread => ?_
  rintro ⟨d, hd, hb, ht⟩
  obtain ⟨e, he, rfl⟩ := List.mem_map.mp hd
  refine ⟨e, he, ?_, ?_⟩
  · split at hb <;> exact hb
  · split at ht <;> exact ht

theorem drawWorksheet (s : Session) : Upkeep s s.drawWorksheet.2 := { refl s with }

theorem drawTab (s : Session) : Upkeep s s.drawTab.2 :=
  { refl s with
    drawn := Nat.le_succ _
    memory := fun _ => .inl rfl }

theorem notify (s : Session) (n : Notice) : Upkeep s (s.notify n) := { refl s with }

theorem dropTab (s : Session) (tab : TabId) : Upkeep s (s.dropTab tab) :=
  { mapTabs s (·.removeTab tab) with
    memory := by
      intro other
      rw [Session.memory?_dropTab]
      split
      · exact .inr (.inl rfl)
      · exact .inl rfl }

theorem createWorksheet (s : Session) (name : String) : Upkeep s (s.createWorksheet name).2 :=
  (drawWorksheet s).trans
    (mapTabs s.drawWorksheet.2 (·.insertWorksheet s.drawWorksheet.1 name))

/-- the tab that was drawn last comes into the store -/
theorem insertTab (s : Session) (x : QueryTab) (hx : x.id = s.drawTab.1) :
    Upkeep s (s.drawTab.2.insertTab x) where
  requests := rfl
  cancelled := rfl
  log := rfl
  drawn := Nat.le_succ _
  memory := by
    intro tab
    rw [Session.memory?_insertTab]
    split
    · next h =>
      rw [h, hx]
      exact .inr (.inr ⟨Nat.lt_succ_self _, Nat.le_refl _, rfl⟩)
    · exact .inl rfl
  threads := fun _ _ h => h

end Upkeep

/-- a connection that is to come for a worksheet is bound to it -/
def Await.Bound : Await → Prop
  | replacing w _ c _ => c.binding = .worksheet w
  | _ => True

/-- the result with which a query ends that was stopped -/
def stopped? : Except ConsoleError Outcome → Option ResultSet
  | .ok (.query (.killed set)) => some set
  | _ => none

/-- a stretch of work on worksheets, tabs and connections: only new tabs get a copy, no request goes
out, nothing is to be stopped, no query ends -/
structure Housekeeping (s : Session) (st : Session.Step) : Prop where
  upkeep : Upkeep s st.1
  bound : ∀ a ∈ st.2.awaits, a.Bound
  flights : ∀ a ∈ st.2.awaits, a.flight? = none
  stops : ∀ a ∈ st.2.awaits, a.stop? = none
  clones : ∀ a ∈ st.2.awaits, ∀ tab, a.clonesFor? = some tab →
    s.tabsDrawn < tab.number ∧ tab.number ≤ st.1.tabsDrawn
  outcome : ∀ r, st.2 = .ends r → stopped? r = none

namespace Housekeeping

theorem ends {s s' : Session} (h : Upkeep s s') {r : Except ConsoleError Outcome}
    (hr : stopped? r = none) : Housekeeping s (s', .ends r) := by
  refine ⟨h, ?_, ?_, ?_, ?_, ?_⟩
  · intro a ha
    cases ha
  · intro a ha
    cases ha
  · intro a ha
    cases ha
  · intro a ha
    cases ha
  · intro r' he
    cases he
    exact hr

theorem waits {s s' : Session} (h : Upkeep s s') {a : Await} (hb : a.Bound)
    (hf : a.flight? = none) (hs : a.stop? = none) (hc : a.clonesFor? = none) :
    Housekeeping s (s', .waits a) := by
  have hmem : ∀ b ∈ (Progress.waits a).awaits, b = a := fun b hb => List.mem_singleton.mp hb
  refine ⟨h, ?_, ?_, ?_, ?_, nofun⟩
  · intro b hb'
    rw [hmem b hb']
    exact hb
  · intro b hb'
    rw [hmem b hb']
    exact hf
  · intro b hb'
    rw [hmem b hb']
    exact hs
  · intro b hb' tab ht
    rw [hmem b hb', hc] at ht
    cases ht

theorem of_upkeep {s s' : Session} {st : Session.Step} (h : Upkeep s s') (h' : Housekeeping s' st) :
    Housekeeping s st := by
  refine ⟨h.trans h'.upkeep, h'.bound, h'.flights, h'.stops, fun a ha tab ht => ?_, h'.outcome⟩
  have hd := h.drawn
  have hc := h'.clones a ha tab ht
  omega

theorem afterClone {s s' : Session} (h : Upkeep s s') (tab : TabId)
    (r : Except ConsoleError Connection) (next : AfterClone) :
    Housekeeping s (s'.afterClone tab r next) := by
  cases next with
  | connection => exact ends h (by cases r <;> rfl)
  | tab => exact ends h rfl
  | worksheet w => exact ends h rfl

theorem beginTab (s : Session) (w : WorksheetId) (name : Option String) (next : AfterClone) :
    Housekeeping s (s.beginTab w name next) := by
  simp only [Session.beginTab]
  split
  · exact ends (.drawTab s) rfl
  · have hx := Upkeep.insertTab s ⟨s.drawTab.1, w, name.getD (Session.defaultName
      (s.store.tabs.nextCount w)), s.store.tabs.nextCount w⟩ rfl
    split
    · next c _ =>
      refine ⟨hx, ?_, ?_, ?_, ?_, nofun⟩ <;> intro a ha <;> rw [List.mem_singleton.mp ha]
      · trivial
      · rfl
      · rfl
      · intro tab ht
        cases ht
        exact ⟨Nat.lt_succ_self _, Nat.le_refl _⟩
    · exact afterClone hx _ _ _

theorem closeTabs (w : WorksheetId) (tabs : List TabId) (s : Session) :
    Housekeeping s (s.closeTabs w tabs) := by
  induction tabs generalizing s with
  | nil =>
    simp only [Session.closeTabs, Session.closeEmpty]
    split
    · exact waits (.refl s) trivial rfl rfl rfl
    · exact ends (.mapTabs s _) rfl
  | cons tab rest ih =>
    simp only [Session.closeTabs]
    split
    · exact ends (.refl s) rfl
    · split
      · exact waits (.dropTab s tab) trivial rfl rfl rfl
      · exact of_upkeep (.dropTab s tab) (ih (s.dropTab tab))

theorem deleteTab (s : Session) (tab : TabId) : Housekeeping s (s.deleteTab tab) := by
  simp only [Session.deleteTab]
  split
  · exact ends (.refl s) rfl
  · split
    · exact waits (.dropTab s tab) trivial rfl rfl rfl
    · exact ends (.dropTab s tab) rfl

theorem beginOpen (s : Session) (w : WorksheetId) (params : ConnectionParams) (next : AfterOpen) :
    Housekeeping s (s.beginOpen w params next) := by
  simp only [Session.beginOpen]
  split
  · exact ends (.refl s) rfl
  · exact waits (.refl s) trivial rfl rfl rfl

theorem afterOpen (s : Session) {w : WorksheetId} {c : Connection} (hc : c.binding = .worksheet w)
    (next : AfterOpen) : Housekeeping s (s.afterOpen w c next) := by
  cases next with
  | connection => exact ends (.insertConnection s hc) rfl
  | firstTab => exact of_upkeep (.insertConnection s hc) (beginTab _ w none _)

theorem opened (s : Session) (w : WorksheetId) (params : ConnectionParams) (next : AfterOpen)
    (reply : Except ConsoleError ConnectionInfo) :
    Housekeeping s (s.opened w params next reply) := by
  cases reply with
  | error e => exact ends (.refl s) rfl
  | ok info =>
    simp only [Session.opened]
    split
    · exact waits (.refl s) rfl rfl rfl rfl
    · exact afterOpen s rfl next

end Housekeeping

end QueryDesk
