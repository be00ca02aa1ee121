import QueryDesk.Proofs.Homes

/-!
# What becomes of worksheets, tabs and connections in a stretch

* `Closed w st`               a worksheet is being closed: up to an error, the next call, or the
  end;
* `Cause.Overlooks k w tab`   one is that does not still have this tab to be deleted;
* `Churns k s s'`             worksheets and tabs come and go; a worksheet goes only if it is closed,
  and what has gone does not come back;
* `Moves.here`, `left`        a tab stays, goes with its memory, or is overlooked when its worksheet
  goes;
* `Moves.keyed`, `tended`     a tab that has gone with its memory has no connection but one that is
  being given back.
-/

namespace QueryDesk

/-- the worksheet that goes on being closed, and its tabs that are still to be deleted -/
def Cause.empties? : Cause → Option (WorksheetId × List TabId)
  | resumes a => a.closing?
  | _ => none

/-- a worksheet is being closed that does not still have this tab to be deleted -/
def Cause.Overlooks (k : Cause) (w : WorksheetId) (tab : TabId) : Prop :=
  ∃ e ∈ k.empties?.toList, e.1 = w ∧ tab ∉ e.2

instance (k : Cause) (w : WorksheetId) (tab : TabId) : Decidable (k.Overlooks w tab) :=
  inferInstanceAs (Decidable (∃ e ∈ k.empties?.toList, e.1 = w ∧ tab ∉ e.2))

theorem Cause.Overlooks.of_closing {a : Await} {w : WorksheetId} {tabs : List TabId} {tab : TabId}
    (ha : a.closing? = some (w, tabs)) (hno : tab ∉ tabs) : (Cause.resumes a).Overlooks w tab :=
  ⟨(w, tabs), by simp [Cause.empties?, ha], rfl, hno⟩

theorem Cause.Overlooks.exists_closing {k : Cause} {w : WorksheetId} {tab : TabId}
    (h : k.Overlooks w tab) :
    ∃ a tabs, k = .resumes a ∧ a.closing? = some (w, tabs) ∧ tab ∉ tabs := by
  obtain ⟨⟨v, tabs⟩, he, rfl, hno⟩ := h
  cases k with
  | resumes a => exact ⟨a, tabs, rfl, by simpa [Cause.empties?] using he, hno⟩
  | begins o => cases he
  | otherwise => cases he

/-- a worksheet that is being closed: up to an error, to the next call, or to its end -/
inductive Closed (w : WorksheetId) : Session.Step → Prop where
  | fails {s : Session} {e} (hw : w ∈ s.store.tabs.worksheetIds) : Closed w (s, .ends (.error e))
  | waits {s : Session} {a tabs} (hw : w ∈ s.store.tabs.worksheetIds)
    (ha : a.closing? = some (w, tabs)) : Closed w (s, .waits a)
  | done {s : Session} (hw : w ∉ s.store.tabs.worksheetIds) : Closed w (s, .ends (.ok .done))

/-! ## stretches -/

section
variable {s s₁ : Session} {k : Cause} {l? r? : Option (Binding × ConnectionId)} {st : Session.Step}
  {w v : WorksheetId} {tab : TabId} {tabs : List TabId}

/-- of worksheets and tabs nothing has changed yet -/
theorem Relinks.exists_map (h : Relinks s k l? r? s₁) : ∃ g, s₁ = s.mapConnections g := by
  cases h with
  | same _ => exact ⟨fun cs => cs, rfl⟩
  | @forgets a id _ => exact ⟨(·.remove id), rfl⟩
  | @opens w params next c _ _ => exact ⟨(·.insert c), rfl⟩
  | @replaces w old c next => exact ⟨fun cs => (cs.remove old).insert c, rfl⟩
  | @clones source tab next c _ _ => exact ⟨(·.insert c), rfl⟩

theorem Empties.exists_map (h : Empties s k w tabs s₁) : ∃ g, s₁ = s.mapConnections g := by
  cases h with
  | first => exact ⟨fun cs => cs, rfl⟩
  | @next c w tabs => exact ⟨(·.remove c), rfl⟩

theorem Empties.closes (h : Empties s k w tabs s₁) : k.closes? = some w := by
  cases h <;> rfl

theorem Orderly.mapConnections (h : Orderly s) (g : Connections → Connections) :
    Orderly (s.mapConnections g) := { h with }

/-! ### what becomes of worksheets -/

theorem Closes.closed (h : Closes w tabs s st) (ho : Orderly s)
    (hw : w ∈ s.store.tabs.worksheetIds) : Closed w st := by
  cases h with
  | fails ht => exact .fails (ht.worksheet w hw)
  | @deletes s' tab rest c ht _ _ =>
    exact .waits (s'.worksheetIds_dropTab tab ▸ ht.worksheet w hw) rfl
  | looks ht _ => exact .waits (ht.worksheet w hw) rfl
  | removes ht _ _ => exact .done ((ht.orderly ho).not_mem_dropWorksheet w)

theorem Moves.closed (h : Moves s k l? st) (ho : Orderly s) (hk : k.closes? = some w)
    (hw : w ∈ s.store.tabs.worksheetIds) : Closed w st := by
  cases h with
  | turns _ hno _ _ _ =>
    rw [hno] at hk
    cases hk
  | deletes _ _ => cases hk
  | replaces _ _ => cases hk
  | closes he h =>
    have heq := Option.some.inj (he.closes.symm.trans hk)
    subst heq
    obtain ⟨g, rfl⟩ := he.exists_map
    exact h.closed (ho.mapConnections g) hw
  | @removes w' c =>
    cases hk
    have ho' : Orderly (s.forget c) := ho.mapConnections _
    exact .done (ho'.not_mem_dropWorksheet w')

/-- only the closing of a worksheet goes on closing it -/
theorem Moves.closes_of_mem (h : Moves s k l? st) {b : Await} (hb : b ∈ st.2.awaits)
    (hc : b.closing? = some (w, tabs)) : k.closes? = some w := by
  cases h with
  | turns _ _ _ _ hp =>
    rw [(hp b hb).closing] at hc
    cases hc
  | deletes _ _ =>
    rw [List.mem_singleton.mp hb] at hc
    cases hc
  | replaces _ _ =>
    rw [List.mem_singleton.mp hb] at hc
    cases hc
  | closes he h =>
    cases h with
    | fails _ => cases hb
    | deletes _ _ _ =>
      rw [List.mem_singleton.mp hb] at hc
      cases hc
      exact he.closes
    | looks _ _ =>
      rw [List.mem_singleton.mp hb] at hc
      cases hc
      exact he.closes
    | removes _ _ _ => cases hb
  | removes => cases hb

/-! ### what becomes of both -/

/-- worksheets and tabs come and go; then a tab goes, or the worksheet that is closed, or neither -/
inductive Churns (k : Cause) (s : Session) : Session → Prop where
  | turns {g tabs s'} (ht : Turnover tabs (s.mapConnections g) s') : Churns k s s'
  | dropsTab {g tabs s' tab} (ht : Turnover tabs (s.mapConnections g) s')
    (hx : tab ∈ s'.store.tabs.tabIds) : Churns k s (s'.dropTab tab)
  | dropsWorksheet {g tabs s' w} (ht : Turnover tabs (s.mapConnections g) s')
    (hk : k.closes? = some w) : Churns k s (s'.dropWorksheet w)

theorem Moves.churns (h : Moves s k l? st) : Churns k s st.1 := by
  have still : ∀ (s : Session), Turnover [] (s.mapConnections fun cs => cs) s := fun s => .refl s
  cases h with
  | turns _ _ hr ht _ =>
    obtain ⟨g, rfl⟩ := hr.exists_map
    exact .turns ht
  | deletes hx _ => exact .dropsTab (still s) hx
  | replaces _ _ => exact .turns (still s)
  | closes he h =>
    obtain ⟨g, rfl⟩ := he.exists_map
    cases h with
    | fails ht => exact .turns ht
    | deletes ht hx _ => exact .dropsTab ht hx
    | looks ht _ => exact .turns ht
    | removes ht _ _ => exact .dropsWorksheet ht he.closes
  | @removes w c =>
    have hstill : Turnover [] (s.mapConnections (·.remove c)) (s.forget c) := .refl _
    exact .dropsWorksheet hstill rfl

namespace Churns
variable {s' : Session}

/-- a worksheet stays that is not being closed -/
theorem worksheet (h : Churns k s s') (ho : Orderly s) (hk : k.closes? ≠ some w)
    (hw : w ∈ s.store.tabs.worksheetIds) : w ∈ s'.store.tabs.worksheetIds := by
  cases h with
  | turns ht => exact ht.worksheet w hw
  | @dropsTab g tabs s₁ tab ht _ => exact s₁.worksheetIds_dropTab tab ▸ ht.worksheet w hw
  | dropsWorksheet ht hk' =>
    refine (ht.orderly (ho.mapConnections _)).mem_worksheetIds_dropWorksheet.mpr ⟨?_, ?_⟩
    · exact ht.worksheet w hw
    · rintro rfl
      exact hk hk'

/-- nor does a worksheet come back -/
theorem worksheet_old (h : Churns k s s') (ho : Orderly s) (hd : w.number ≤ s.worksheetsDrawn)
    (hw : w ∈ s'.store.tabs.worksheetIds) : w ∈ s.store.tabs.worksheetIds := by
  cases h with
  | turns ht => exact ht.worksheet_old w hw hd
  | @dropsTab g tabs s₁ tab ht _ =>
    exact ht.worksheet_old w (s₁.worksheetIds_dropTab tab ▸ hw) hd
  | dropsWorksheet ht _ =>
    have ho' := ht.orderly (ho.mapConnections _)
    exact ht.worksheet_old w (ho'.mem_worksheetIds_dropWorksheet.mp hw).1 hd

theorem drawn (h : Churns k s s') :
    s.worksheetsDrawn ≤ s'.worksheetsDrawn ∧ s.tabsDrawn ≤ s'.tabsDrawn := by
  cases h with
  | turns ht => exact ⟨ht.worksheetsDrawn, ht.tabsDrawn⟩
  | dropsTab ht _ => exact ⟨ht.worksheetsDrawn, ht.tabsDrawn⟩
  | dropsWorksheet ht _ => exact ⟨ht.worksheetsDrawn, ht.tabsDrawn⟩

theorem orderly (h : Churns k s s') (ho : Orderly s) : Orderly s' := by
  cases h with
  | turns ht => exact ht.orderly (ho.mapConnections _)
  | dropsTab ht _ => exact (ht.orderly (ho.mapConnections _)).dropTab _
  | dropsWorksheet ht _ => exact (ht.orderly (ho.mapConnections _)).dropWorksheet _

/-- a tab that is not there stays away, and so does its memory, or it is left -/
theorem away (h : Churns k s s') (ho : Orderly s) (hd : tab.number ≤ s.tabsDrawn)
    (hno : tab ∉ s.store.tabs.tabIds) : tab ∉ s'.store.tabs.tabIds ∧
      (s'.memory? tab).isSome = (s.memory? tab).isSome := by
  have hmap : ∀ g, Orderly (s.mapConnections g) := ho.mapConnections
  cases h with
  | turns ht => exact ht.away (hmap _) tab hd hno
  | dropsTab ht hx =>
    obtain ⟨hno', hm⟩ := ht.away (hmap _) tab hd hno
    obtain ⟨hno'', hm'⟩ := (ht.orderly (hmap _)).away_dropTab hx hno'
    exact ⟨hno'', hm'.trans hm⟩
  | dropsWorksheet ht _ =>
    obtain ⟨hno', hm⟩ := ht.away (hmap _) tab hd hno
    exact ⟨(ht.orderly (hmap _)).away_dropWorksheet hno', hm⟩

end Churns

/-! ### what becomes of a tab of a worksheet -/

theorem Closes.here (h : Closes w tabs s st) (ho : Orderly s)
    (ht : tab ∈ s.store.tabs.idsOf v) : tab ∈ st.1.store.tabs.idsOf v ∨ st.1.Gone tab ∨
      (st.1.Left tab ∧ v = w ∧ tab ∉ tabs ∧ w ∉ st.1.store.tabs.worksheetIds) := by
  have hold : ∀ {s' : Session}, Turnover tabs s s' →
      tab ∈ s'.store.tabs.idsOf v ∨ s'.Gone tab := fun htu =>
    (htu.here ho v tab ht).imp_right fun hgone => hgone.2.1
  cases h with
  | fails htu => exact (hold htu).imp_right .inl
  | @deletes s' other rest c htu hx _ =>
    have ho' := htu.orderly ho
    rcases hold htu with hin | hgone
    · by_cases he : tab = other
      · exact .inr (.inl (he ▸ ho'.gone_dropTab tab))
      · exact .inl (ho'.idsOf_dropTab hin he)
    · obtain ⟨hno, hm⟩ := ho'.away_dropTab hx hgone.absent
      exact .inr (.inl ⟨hno, hm.trans hgone.memory⟩)
  | looks htu _ => exact (hold htu).imp_right .inl
  | @removes s' htu hdone _ =>
    have ho' := htu.orderly ho
    rcases hold htu with hin | hgone
    · rcases ho'.here_dropWorksheet (w := w) hin with hstay | ⟨hvw, hleft⟩
      · exact .inl hstay
      · -- its own tabs had gone before, so this is none of them
        refine .inr (.inr ⟨hleft, hvw, fun hmem => ?_, ho'.not_mem_dropWorksheet w⟩)
        have hd := ho.tab_le (Tabs.mem_tabIds_of_idsOf ht)
        exact hdone ho tab hmem hd (Tabs.mem_tabIds_of_idsOf hin)
    · exact .inr (.inl ⟨ho'.away_dropWorksheet hgone.absent, hgone.memory⟩)

/-- a tab stays, goes with its memory, or is overlooked when its worksheet goes -/
theorem Moves.here (h : Moves s k l? st) (ho : Orderly s) (ht : tab ∈ s.store.tabs.idsOf w) :
    tab ∈ st.1.store.tabs.idsOf w ∨ st.1.Gone tab ∨
      (st.1.Left tab ∧ k.Overlooks w tab ∧ w ∉ st.1.store.tabs.worksheetIds) := by
  cases h with
  | turns _ _ hr htu _ =>
    obtain ⟨g, rfl⟩ := hr.exists_map
    exact (htu.here (ho.mapConnections g) w tab ht).imp_right fun hgone => .inl hgone.2.1
  | @deletes other c _ _ =>
    by_cases he : tab = other
    · exact .inr (.inl (he ▸ ho.gone_dropTab tab))
    · exact .inl (ho.idsOf_dropTab ht he)
  | replaces _ _ => exact .inl ht
  | @closes k w' tabs s₁ st he h =>
    obtain ⟨g, hg⟩ := he.exists_map
    have ht' : tab ∈ s₁.store.tabs.idsOf w := by
      rw [hg]
      exact ht
    have hhere := h.here (hg ▸ ho.mapConnections g) ht'
    refine hhere.imp_right fun hrest => hrest.imp_right ?_
    rintro ⟨hleft, rfl, hno, hgone⟩
    -- the first stretch of a closing has all tabs of the worksheet to delete
    cases he with
    | first => exact absurd ht hno
    | next => exact ⟨hleft, .of_closing rfl hno, hgone⟩
  | @removes w' c =>
    have ho' : Orderly (s.forget c) := ho.mapConnections _
    rcases ho'.here_dropWorksheet (w := w') ht with hstay | ⟨rfl, hleft⟩
    · exact .inl hstay
    · exact .inr (.inr ⟨hleft, .of_closing rfl nofun, ho'.not_mem_dropWorksheet w⟩)

/-- what is overlooked leaves its memory -/
theorem Closes.left (h : Closes w tabs s st) (ho : Orderly s) (ht : tab ∈ s.store.tabs.idsOf w)
    (hno : tab ∉ tabs) (hw : w ∉ st.1.store.tabs.worksheetIds) : st.1.Left tab := by
  have hold := ho.tabs.mem_worksheetIds_of_idsOf ht
  cases h with
  | fails htu => exact absurd (htu.worksheet w hold) hw
  | @deletes s' other rest c htu _ _ =>
    exact absurd (s'.worksheetIds_dropTab other ▸ htu.worksheet w hold) hw
  | looks htu _ => exact absurd (htu.worksheet w hold) hw
  | removes htu _ _ =>
    have ho' := htu.orderly ho
    rcases htu.here ho w tab ht with hin | ⟨hmem, _⟩
    · rcases ho'.here_dropWorksheet (w := w) hin with hstay | ⟨_, hleft⟩
      · exact absurd ((ho'.dropWorksheet w).tabs.mem_worksheetIds_of_idsOf hstay) hw
      · exact hleft
    · exact absurd hmem hno

theorem Moves.left (h : Moves s k l? st) (ho : Orderly s) (hk : k.Overlooks w tab)
    (ht : tab ∈ s.store.tabs.idsOf w) (hw : w ∉ st.1.store.tabs.worksheetIds) :
    st.1.Left tab := by
  obtain ⟨a, tabs, rfl, ha, hno⟩ := hk.exists_closing
  cases h with
  | turns _ hk _ _ _ =>
    simp [Cause.closes?, ha] at hk
  | replaces _ _ => cases ha
  | @closes _ w' tabs' s₁ _ he h =>
    obtain ⟨g, hg⟩ := he.exists_map
    have ht' : tab ∈ s₁.store.tabs.idsOf w := by
      rw [hg]
      exact ht
    cases he with
    | next =>
      cases ha
      exact h.left (ho.mapConnections _) ht' hno hw
  | @removes w' c =>
    cases ha
    have ho' : Orderly (s.forget c) := ho.mapConnections _
    rcases ho'.here_dropWorksheet (w := w) ht with hstay | ⟨_, hleft⟩
    · exact absurd ((ho'.dropWorksheet w).tabs.mem_worksheetIds_of_idsOf hstay) hw
    · exact hleft

/-! ### what becomes of connections -/

theorem Relinks.keyed (h : Relinks s k l? r? s₁) (hk : s.store.connections.Keyed) :
    s₁.store.connections.Keyed := by
  cases h with
  | same _ => exact hk
  | @forgets a id _ => exact hk.remove id
  | @opens w params next c _ _ => exact hk.insert c
  | @replaces w old c next => exact (hk.remove old).insert c
  | @clones source tab next c _ _ => exact hk.insert c

theorem Empties.keyed (h : Empties s k w tabs s₁) (hk : s.store.connections.Keyed) :
    s₁.store.connections.Keyed := by
  cases h with
  | first => exact hk
  | @next c w tabs => exact hk.remove c

theorem Moves.keyed (h : Moves s k l? st) (hk : s.store.connections.Keyed) :
    st.1.store.connections.Keyed := by
  cases h with
  | turns _ _ hr ht _ => exact (hr.keyed hk).of_links ht.links
  | deletes _ _ => exact hk.of_links rfl
  | replaces _ _ => exact hk
  | closes he h => exact (he.keyed hk).of_links h.links.1
  | @removes w c => exact (hk.remove c).of_links rfl

theorem Turnover.gone_before {s' : Session} (h : Turnover tabs s s') (ho : Orderly s)
    (hgone : s'.Gone tab) (hb : .tab tab ∈ s.store.connections.bindings) : s.Gone tab := by
  have hno : tab ∉ s.store.tabs.tabIds := by
    intro hmem
    obtain ⟨x, hx, rfl⟩ := List.mem_map.mp hmem
    rcases h.here ho x.worksheet x.id (Tabs.mem_idsOf.mpr ⟨x, hx, rfl, rfl⟩) with hin | ⟨_, _, hno⟩
    · exact hgone.absent (Tabs.mem_tabIds_of_idsOf hin)
    · exact hno hb
  refine ⟨hno, ?_⟩
  cases hm : (s.memory? tab).isSome with
  | false => rfl
  | true =>
    obtain ⟨_, hm'⟩ := h.away ho tab (ho.tabsDrawn tab hm) hno
    rw [← hm, ← hm']
    exact hgone.memory

theorem Orderly.gone_of_dropTab {other : TabId} (ho : Orderly s)
    (hgone : (s.dropTab other).Gone tab) (hne : tab ≠ other) : s.Gone tab where
  absent := fun hmem => hgone.absent (ho.mem_tabIds_dropTab.mpr ⟨hmem, hne⟩)
  memory := by
    have hm := hgone.memory
    rw [Session.memory?_dropTab, if_neg hne] at hm
    exact hm

theorem Orderly.gone_of_dropWorksheet (ho : Orderly s) (hgone : (s.dropWorksheet w).Gone tab) :
    s.Gone tab where
  absent := by
    intro hmem
    have hm : (s.memory? tab).isSome = false := hgone.memory
    rw [ho.memory tab hmem] at hm
    cases hm
  memory := hgone.memory

/-- the record of a gone tab is one that is being given back -/
theorem Closes.tended {id : ConnectionId} (h : Closes w tabs s st) (ho : Orderly s)
    (hk : s.store.connections.Keyed) (hgone : st.1.Gone tab) (hl : (.tab tab, id) ∈ st.1.links) :
    (∃ next, .deleting id next ∈ st.2.awaits) ∨ (s.Gone tab ∧ (.tab tab, id) ∈ s.links) := by
  have hold : (.tab tab, id) ∈ s.links := h.links.1 ▸ hl
  have hb : .tab tab ∈ s.store.connections.bindings := Connections.mem_bindings hold
  cases h with
  | fails ht => exact .inr ⟨ht.gone_before ho hgone hb, hold⟩
  | @deletes s' other rest c ht _ hc =>
    by_cases he : tab = other
    · -- the tab has one connection only, and that is given back
      have hk' : s'.store.connections.Keyed := hk.of_links ht.links
      have hsame := List.inj_on_of_nodup_map hk'.bindings hl (Connections.mem_links_of_bound? hc)
        (congrArg Binding.tab he)
      obtain rfl : id = c.id := congrArg Prod.snd hsame
      exact .inl ⟨_, List.mem_singleton_self _⟩
    · have hgone' := (ht.orderly ho).gone_of_dropTab hgone he
      exact .inr ⟨ht.gone_before ho hgone' hb, hold⟩
  | looks ht _ => exact .inr ⟨ht.gone_before ho hgone hb, hold⟩
  | removes ht _ _ =>
    have hgone' := (ht.orderly ho).gone_of_dropWorksheet hgone
    exact .inr ⟨ht.gone_before ho hgone' hb, hold⟩

theorem Moves.tended {id : ConnectionId} (h : Moves s k l? st) (ho : Orderly s)
    (hk : s.store.connections.Keyed)
    (hw : ∀ w old c next, k = .resumes (.replacing w old c next) → c.binding = .worksheet w)
    (hgone : st.1.Gone tab) (hl : (.tab tab, id) ∈ st.1.links) :
    (∃ next, .deleting id next ∈ st.2.awaits) ∨ (s.Gone tab ∧ (.tab tab, id) ∈ s.links ∧
      ∀ next, k ≠ .resumes (.deleting id next)) := by
  cases h with
  | @turns _ _ _ s₁ s' _ tabs _ hr ht _ =>
    have hl' : (.tab tab, id) ∈ s₁.links := ht.links ▸ hl
    obtain ⟨g, hg⟩ := hr.exists_map
    have ho' : Orderly s₁ := hg ▸ ho.mapConnections g
    have hgone₁ := ht.gone_before ho' hgone (Connections.mem_bindings hl')
    have hgone' : s.Gone tab := by
      rw [hg] at hgone₁
      exact ⟨hgone₁.absent, hgone₁.memory⟩
    refine .inr ⟨hgone', ?_⟩
    cases hr with
    | same hk => exact ⟨hl', fun next he => by rw [he] at hk; cases hk⟩
    | forgets hf =>
      obtain ⟨hold, hne⟩ := Connections.mem_links_remove.mp hl'
      refine ⟨hold, ?_⟩
      rintro next ⟨⟩
      cases hf
      exact hne rfl
    | opens hb _ =>
      rcases Connections.mem_links_insert hl' with hold | he
      · exact ⟨hold, nofun⟩
      · rw [hb] at he
        cases he
    | @replaces w old c next =>
      rcases Connections.mem_links_insert hl' with hold | he
      · exact ⟨(Connections.mem_links_remove.mp hold).1, nofun⟩
      · rw [hw w old c next rfl] at he
        cases he
    | clones hb hx =>
      rcases Connections.mem_links_insert hl' with hold | he
      · exact ⟨hold, nofun⟩
      · rw [hb] at he
        cases he
        exact absurd hx hgone'.absent
  | @deletes other c _ hc =>
    by_cases he : tab = other
    · have hsame := List.inj_on_of_nodup_map hk.bindings hl (Connections.mem_links_of_bound? hc)
        (congrArg Binding.tab he)
      obtain rfl : id = c.id := congrArg Prod.snd hsame
      exact .inl ⟨_, List.mem_singleton_self _⟩
    · exact .inr ⟨ho.gone_of_dropTab hgone he, hl, nofun⟩
  | replaces _ _ => exact .inr ⟨hgone, hl, nofun⟩
  | closes he h =>
    cases he with
    | first => exact (h.tended ho hk hgone hl).imp_right fun hold => ⟨hold.1, hold.2, nofun⟩
    | @next c w tabs =>
      refine (h.tended (ho.mapConnections _) (hk.remove c) hgone hl).imp_right fun hold => ?_
      obtain ⟨hgone', hl'⟩ := hold
      obtain ⟨hmem, hne⟩ := Connections.mem_links_remove.mp hl'
      refine ⟨⟨hgone'.absent, hgone'.memory⟩, hmem, ?_⟩
      rintro next ⟨⟩
      exact hne rfl
  | @removes w c =>
    have ho' : Orderly (s.forget c) := ho.mapConnections _
    have hgone' := ho'.gone_of_dropWorksheet hgone
    exact .inr ⟨⟨hgone'.absent, hgone'.memory⟩, (Connections.mem_links_remove.mp hl).1, nofun⟩

theorem Moves.replacing {old : ConnectionId} {c : Connection} {next : AfterOpen}
    (h : Moves s k l? st) (hb : .replacing w old c next ∈ st.2.awaits) :
    c.binding = .worksheet w := by
  cases h with
  | turns _ _ _ _ hp => cases (hp _ hb).leaving
  | deletes _ _ => cases List.mem_singleton.mp hb
  | replaces hc _ =>
    cases List.mem_singleton.mp hb
    exact hc
  | closes _ h =>
    cases h with
    | fails _ => cases hb
    | deletes _ _ _ => cases List.mem_singleton.mp hb
    | looks _ _ => cases List.mem_singleton.mp hb
    | removes _ _ _ => cases hb
  | removes => cases hb

end

end QueryDesk
