import QueryDesk.Proofs.Frame
import QueryDesk.Proofs.Tabs

/-!
# Worksheets and tabs come and go

What is said here needs no operation to have come to its end.

* `Session.links`          whom each connection of the session serves;
* `Orderly s`              every tab has a memory, and no name is taken that was not drawn;
* `Session.Gone`, `Session.Left`   a tab that is not there, without its memory and with it;
* `Turnover tabs s s'`     worksheets and tabs may have come, and of the tabs these may have gone,
  with their memories, if no connection served them;
* `Session.dropTab`, `Session.dropWorksheet`   what goes with a tab, and with a worksheet: of the
  tabs of a worksheet the memories are left.
-/

namespace QueryDesk

namespace Session

def links (s : Session) : List (Binding × ConnectionId) := s.store.connections.links

/-- the tab is not there, and has no memory -/
structure Gone (s : Session) (tab : TabId) : Prop where
  absent : tab ∉ s.store.tabs.tabIds
  memory : (s.memory? tab).isSome = false

/-- the tab is not there, but its memory is -/
structure Left (s : Session) (tab : TabId) : Prop where
  absent : tab ∉ s.store.tabs.tabIds
  memory : (s.memory? tab).isSome = true

end Session

structure Orderly (s : Session) : Prop where
  tabs : s.store.tabs.Sound
  memory : ∀ tab ∈ s.store.tabs.tabIds, (s.memory? tab).isSome
  worksheetsDrawn : ∀ w ∈ s.store.tabs.worksheetIds, w.number ≤ s.worksheetsDrawn
  tabsDrawn : ∀ tab, (s.memory? tab).isSome → tab.number ≤ s.tabsDrawn

/-- worksheets and tabs may have come, and of the tabs these may have gone; no other change -/
structure Turnover (tabs : List TabId) (s s' : Session) : Prop where
  links : s'.links = s.links
  worksheetsDrawn : s.worksheetsDrawn ≤ s'.worksheetsDrawn
  tabsDrawn : s.tabsDrawn ≤ s'.tabsDrawn
  worksheet : ∀ w ∈ s.store.tabs.worksheetIds, w ∈ s'.store.tabs.worksheetIds
  /-- a worksheet that has gone does not come back -/
  worksheet_old : ∀ w ∈ s'.store.tabs.worksheetIds, w.number ≤ s.worksheetsDrawn →
    w ∈ s.store.tabs.worksheetIds
  orderly : Orderly s → Orderly s'
  /-- nor does a tab -/
  away : Orderly s → ∀ tab, tab.number ≤ s.tabsDrawn → tab ∉ s.store.tabs.tabIds →
    tab ∉ s'.store.tabs.tabIds ∧ (s'.memory? tab).isSome = (s.memory? tab).isSome
  here : Orderly s → ∀ w, ∀ tab ∈ s.store.tabs.idsOf w, tab ∈ s'.store.tabs.idsOf w ∨
    (tab ∈ tabs ∧ s'.Gone tab ∧ .tab tab ∉ s.store.connections.bindings)

theorem Orderly.tab_le {s : Session} (h : Orderly s) {tab : TabId}
    (ht : tab ∈ s.store.tabs.tabIds) : tab.number ≤ s.tabsDrawn :=
  h.tabsDrawn tab (h.memory tab ht)

theorem Orderly.start (u : Setup) : Orderly u.session where
  tabs := .empty
  memory := nofun
  worksheetsDrawn := nofun
  tabsDrawn := nofun

namespace Turnover
variable {tabs tabs' : List TabId} {s s' s'' : Session}

theorem trans (h : Turnover tabs s s') (h' : Turnover tabs s' s'') : Turnover tabs s s'' where
  links := h'.links.trans h.links
  worksheetsDrawn := Nat.le_trans h.worksheetsDrawn h'.worksheetsDrawn
  tabsDrawn := Nat.le_trans h.tabsDrawn h'.tabsDrawn
  worksheet := fun w hw => h'.worksheet w (h.worksheet w hw)
  worksheet_old := fun w hw hd =>
    h.worksheet_old w (h'.worksheet_old w hw (Nat.le_trans hd h.worksheetsDrawn)) hd
  orderly := fun ho => h'.orderly (h.orderly ho)
  away := by
    intro ho tab hd hno
    obtain ⟨hno', hm'⟩ := h.away ho tab hd hno
    obtain ⟨hno'', hm''⟩ := h'.away (h.orderly ho) tab (Nat.le_trans hd h.tabsDrawn) hno'
    exact ⟨hno'', hm''.trans hm'⟩
  here := by
    intro ho w tab ht
    have ho' := h.orderly ho
    rcases h.here ho w tab ht with ht' | ⟨hin, hgone, hb⟩
    · rcases h'.here ho' w tab ht' with ht'' | ⟨hin, hgone, hb⟩
      · exact .inl ht''
      · unfold Connections.bindings at hb
        have hl : s'.store.connections.links = s.store.connections.links := h.links
        rw [hl] at hb
        exact .inr ⟨hin, hgone, hb⟩
    · -- once it has gone it stays away
      have hd := ho.tab_le (Tabs.mem_tabIds_of_idsOf ht)
      obtain ⟨hno, hm⟩ := h'.away ho' tab (Nat.le_trans hd h.tabsDrawn) hgone.absent
      exact .inr ⟨hin, ⟨hno, hm.trans hgone.memory⟩, hb⟩

theorem mono (h : Turnover tabs s s') (hsub : tabs ⊆ tabs') : Turnover tabs' s s' :=
  { h with
    here := fun ho w tab ht => (h.here ho w tab ht).imp_right fun hgone =>
      ⟨hsub hgone.1, hgone.2⟩ }

/-- nothing has come or gone, not even a memory -/
theorem of_names (hsound : s.store.tabs.Sound → s'.store.tabs.Sound)
    (hws : s'.store.tabs.worksheetIds = s.store.tabs.worksheetIds)
    (hof : ∀ w, s'.store.tabs.idsOf w = s.store.tabs.idsOf w)
    (hids : s'.store.tabs.tabIds = s.store.tabs.tabIds)
    (hm : ∀ tab, (s'.memory? tab).isSome = (s.memory? tab).isSome) (hl : s'.links = s.links)
    (hw : s'.worksheetsDrawn = s.worksheetsDrawn) (ht : s.tabsDrawn ≤ s'.tabsDrawn) :
    Turnover tabs s s' where
  links := hl
  worksheetsDrawn := Nat.le_of_eq hw.symm
  tabsDrawn := ht
  worksheet := fun w hmem => hws ▸ hmem
  worksheet_old := fun w hmem _ => hws ▸ hmem
  orderly := fun ho => {
    tabs := hsound ho.tabs
    memory := by
      intro tab htab
      rw [hids] at htab
      rw [hm]
      exact ho.memory tab htab
    worksheetsDrawn := by
      rw [hws, hw]
      exact ho.worksheetsDrawn
    tabsDrawn := fun tab hmem => Nat.le_trans (ho.tabsDrawn tab (hm tab ▸ hmem)) ht }
  away := by
    intro ho tab _ hno
    rw [hids]
    exact ⟨hno, hm tab⟩
  here := by
    intro ho w tab htab
    rw [hof]
    exact .inl htab

theorem of_sameFrame (h : SameFrame s s') : Turnover tabs s s' :=
  .of_names (fun ht => h.tabs ▸ ht) (by rw [h.tabs]) (fun w => by rw [h.tabs]) (by rw [h.tabs])
    h.memory h.links h.worksheetsDrawn (Nat.le_of_eq h.tabsDrawn.symm)

theorem refl (s : Session) : Turnover tabs s s := .of_sameFrame (.refl s)

theorem drawTab (s : Session) : Turnover tabs s s.drawTab.2 :=
  .of_names id rfl (fun _ => rfl) rfl (fun _ => rfl) rfl rfl (Nat.le_succ _)

theorem createWorksheet (s : Session) (name : String) :
    Turnover tabs s (s.createWorksheet name).2 := by
  have hws : (s.createWorksheet name).2.store.tabs.worksheetIds =
      s.store.tabs.worksheetIds ++ [s.drawWorksheet.1] := Tabs.worksheetIds_insertWorksheet name
  have hnew : ∀ w, w.number ≤ s.worksheetsDrawn → w ≠ s.drawWorksheet.1 := by
    rintro w hd rfl
    exact Nat.not_succ_le_self _ hd
  exact {
    links := rfl
    worksheetsDrawn := Nat.le_succ _
    tabsDrawn := Nat.le_refl _
    worksheet := fun w hw => hws ▸ List.mem_append_left _ hw
    worksheet_old := by
      intro w hw hd
      rcases List.mem_append.mp (hws ▸ hw) with hw | hw
      · exact hw
      · exact absurd (List.mem_singleton.mp hw) (hnew w hd)
    orderly := fun ho => {
      tabs := ho.tabs.insertWorksheet (fun hw => hnew _ (ho.worksheetsDrawn _ hw) rfl) name
      memory := ho.memory
      worksheetsDrawn := by
        intro w hw
        rcases List.mem_append.mp (hws ▸ hw) with hw | hw
        · exact Nat.le_succ_of_le (ho.worksheetsDrawn w hw)
        · rw [List.mem_singleton.mp hw]
          exact Nat.le_refl _
      tabsDrawn := ho.tabsDrawn }
    away := fun _ _ _ hno => ⟨hno, rfl⟩
    here := fun _ _ _ ht => .inl ht }

/-- a tab that was drawn comes into the store -/
theorem insertTab {x : QueryTab} (hx : x.id = s.drawTab.1)
    (hw : x.worksheet ∈ s.store.tabs.worksheetIds) :
    Turnover tabs s (s.drawTab.2.insertTab x) := by
  have hids : (s.drawTab.2.insertTab x).store.tabs.tabIds = s.store.tabs.tabIds ++ [x.id] :=
    Tabs.tabIds_insertTab x
  have hws : (s.drawTab.2.insertTab x).store.tabs.worksheetIds = s.store.tabs.worksheetIds :=
    Tabs.worksheetIds_insertTab x
  have hnew : ∀ tab : TabId, tab.number ≤ s.tabsDrawn → tab ≠ x.id := by
    rintro tab hd rfl
    rw [hx] at hd
    exact Nat.not_succ_le_self _ hd
  have hm : ∀ tab : TabId, tab ≠ x.id →
      (s.drawTab.2.insertTab x).memory? tab = s.memory? tab := fun tab hne =>
    (s.drawTab.2.memory?_insertTab x tab).trans (if_neg hne)
  have hm' : ((s.drawTab.2.insertTab x).memory? x.id).isSome := by
    rw [Session.memory?_insertTab, if_pos rfl]
    rfl
  exact {
    links := rfl
    worksheetsDrawn := Nat.le_refl _
    tabsDrawn := Nat.le_succ _
    worksheet := fun w hmem => hws ▸ hmem
    worksheet_old := fun w hmem _ => hws ▸ hmem
    orderly := fun ho => {
      tabs := ho.tabs.insertTab (fun hmem => hnew _ (ho.tab_le hmem) rfl) hw
      memory := by
        intro tab htab
        by_cases he : tab = x.id
        · exact he ▸ hm'
        · rw [hm tab he]
          rcases List.mem_append.mp (hids ▸ htab) with htab | htab
          · exact ho.memory tab htab
          · exact absurd (List.mem_singleton.mp htab) he
      worksheetsDrawn := by
        rw [hws]
        exact ho.worksheetsDrawn
      tabsDrawn := by
        intro tab hmem
        by_cases he : tab = x.id
        · rw [he, hx]
          exact Nat.le_refl _
        · rw [hm tab he] at hmem
          exact Nat.le_succ_of_le (ho.tabsDrawn tab hmem) }
    away := by
      intro ho tab hd hno
      refine ⟨fun hmem => ?_, congrArg Option.isSome (hm tab (hnew tab hd))⟩
      rcases List.mem_append.mp (hids ▸ hmem) with hmem | hmem
      · exact hno hmem
      · exact hnew tab hd (List.mem_singleton.mp hmem)
    here := by
      intro ho w tab htab
      obtain ⟨y, hy, hyw, hid⟩ := Tabs.mem_idsOf.mp htab
      exact .inl (Tabs.mem_idsOf.mpr ⟨y, List.mem_append_left _ hy, hyw, hid⟩) }

end Turnover

/-! ## what goes -/

section
variable {s : Session} {tab other : TabId} {w v : WorksheetId}

theorem Session.worksheetIds_dropTab (s : Session) (tab : TabId) :
    (s.dropTab tab).store.tabs.worksheetIds = s.store.tabs.worksheetIds :=
  Tabs.worksheetIds_removeTab ..

theorem Orderly.mem_tabIds_dropTab (h : Orderly s) :
    other ∈ (s.dropTab tab).store.tabs.tabIds ↔ other ∈ s.store.tabs.tabIds ∧ other ≠ tab := by
  have hids : (s.dropTab tab).store.tabs.tabIds = s.store.tabs.tabIds.filter (· ≠ tab) :=
    h.tabs.tabIds_removeTab tab
  rw [hids]
  simp

theorem Orderly.dropTab (h : Orderly s) (tab : TabId) : Orderly (s.dropTab tab) where
  tabs := h.tabs.removeTab tab
  memory := by
    intro other ho
    obtain ⟨hmem, hne⟩ := h.mem_tabIds_dropTab.mp ho
    rw [Session.memory?_dropTab, if_neg hne]
    exact h.memory other hmem
  worksheetsDrawn := by
    rw [s.worksheetIds_dropTab]
    exact h.worksheetsDrawn
  tabsDrawn := by
    intro other hmem
    rw [Session.memory?_dropTab] at hmem
    split at hmem
    · cases hmem
    · exact h.tabsDrawn other hmem

theorem Orderly.gone_dropTab (h : Orderly s) (tab : TabId) : (s.dropTab tab).Gone tab where
  absent := fun hmem => (h.mem_tabIds_dropTab.mp hmem).2 rfl
  memory := by
    rw [Session.memory?_dropTab, if_pos rfl]
    rfl

theorem Orderly.idsOf_dropTab (h : Orderly s) (ho : other ∈ s.store.tabs.idsOf w)
    (hne : other ≠ tab) : other ∈ (s.dropTab tab).store.tabs.idsOf w := by
  have hof : (s.dropTab tab).store.tabs.idsOf w = (s.store.tabs.idsOf w).filter (· ≠ tab) :=
    h.tabs.idsOf_removeTab tab w
  rw [hof]
  exact List.mem_filter.mpr ⟨ho, by simpa using hne⟩

theorem Orderly.away_dropTab (h : Orderly s) (ht : tab ∈ s.store.tabs.tabIds)
    (hno : other ∉ s.store.tabs.tabIds) : other ∉ (s.dropTab tab).store.tabs.tabIds ∧
      ((s.dropTab tab).memory? other).isSome = (s.memory? other).isSome := by
  have hne : other ≠ tab := fun he => hno (he ▸ ht)
  rw [Session.memory?_dropTab, if_neg hne]
  exact ⟨fun hmem => hno (h.mem_tabIds_dropTab.mp hmem).1, rfl⟩

theorem Turnover.dropTab {tabs : List TabId} (hin : tab ∈ tabs) (ht : tab ∈ s.store.tabs.tabIds)
    (hb : .tab tab ∉ s.store.connections.bindings) : Turnover tabs s (s.dropTab tab) where
  links := rfl
  worksheetsDrawn := Nat.le_refl _
  tabsDrawn := Nat.le_refl _
  worksheet := fun w hmem => s.worksheetIds_dropTab tab ▸ hmem
  worksheet_old := fun w hmem _ => s.worksheetIds_dropTab tab ▸ hmem
  orderly := fun ho => ho.dropTab tab
  away := fun ho _ _ hno => ho.away_dropTab ht hno
  here := by
    intro ho w other hmem
    by_cases he : other = tab
    · exact .inr ⟨he ▸ hin, he ▸ ho.gone_dropTab tab, he ▸ hb⟩
    · exact .inl (ho.idsOf_dropTab hmem he)

/-- a worksheet goes, and its tabs with it, but for what they remember -/
def Session.dropWorksheet (s : Session) (w : WorksheetId) : Session :=
  s.mapTabs (·.removeWorksheet w)

theorem Orderly.dropWorksheet (h : Orderly s) (w : WorksheetId) : Orderly (s.dropWorksheet w) where
  tabs := h.tabs.removeWorksheet w
  memory := fun tab ht => h.memory tab ((h.tabs.sheds_removeWorksheet w).mem_tabIds.mp ht).1
  worksheetsDrawn := by
    have hws : (s.dropWorksheet w).store.tabs.worksheetIds =
        s.store.tabs.worksheetIds.filter (· ≠ w) := h.tabs.distinct.worksheetIds_removeWorksheet w
    rw [hws]
    exact fun v hv => h.worksheetsDrawn v (List.mem_filter.mp hv).1
  tabsDrawn := h.tabsDrawn

theorem Orderly.mem_worksheetIds_dropWorksheet (h : Orderly s) :
    v ∈ (s.dropWorksheet w).store.tabs.worksheetIds ↔ v ∈ s.store.tabs.worksheetIds ∧ v ≠ w := by
  have hws : (s.dropWorksheet w).store.tabs.worksheetIds =
      s.store.tabs.worksheetIds.filter (· ≠ w) := h.tabs.distinct.worksheetIds_removeWorksheet w
  rw [hws]
  simp

theorem Orderly.not_mem_dropWorksheet (h : Orderly s) (w : WorksheetId) :
    w ∉ (s.dropWorksheet w).store.tabs.worksheetIds :=
  fun hmem => (h.mem_worksheetIds_dropWorksheet.mp hmem).2 rfl

/-- the tabs of the worksheet leave their memories, and those of the others stay -/
theorem Orderly.here_dropWorksheet (h : Orderly s) (ht : tab ∈ s.store.tabs.idsOf v) :
    tab ∈ (s.dropWorksheet w).store.tabs.idsOf v ∨ (v = w ∧ (s.dropWorksheet w).Left tab) := by
  obtain ⟨x, hx, hxv, rfl⟩ := Tabs.mem_idsOf.mp ht
  by_cases he : x.id ∈ s.store.tabs.idsOf w
  · obtain ⟨y, hy, hyw, hid⟩ := Tabs.mem_idsOf.mp he
    have hvw : v = w := by
      rw [← hxv, h.tabs.distinct.tab_eq hx hy hid.symm, hyw]
    refine .inr ⟨hvw, fun hmem => ?_, h.memory _ (List.mem_map_of_mem hx)⟩
    exact ((h.tabs.sheds_removeWorksheet w).mem_tabIds.mp hmem).2 he
  · exact .inl ((h.tabs.sheds_removeWorksheet w).mem_idsOf.mpr ⟨ht, he⟩)

theorem Orderly.away_dropWorksheet (h : Orderly s) (hno : tab ∉ s.store.tabs.tabIds) :
    tab ∉ (s.dropWorksheet w).store.tabs.tabIds :=
  fun hmem => hno ((h.tabs.sheds_removeWorksheet w).mem_tabIds.mp hmem).1

end

end QueryDesk
