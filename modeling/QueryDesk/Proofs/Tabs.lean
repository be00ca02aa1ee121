import QueryDesk.Proofs.Removal

/-!
# Worksheets and tabs that hang together

* `ActiveAmong active ids`   the active tab is one of these, if there are any;
* `Tabs.Sound`               every tab has its worksheet and its editor, every file its tab, every
  worksheet with tabs its active tab, and no name is taken twice.

One lemma for each operation says that it keeps this.
-/

namespace QueryDesk

/-- the active one is one of these, if there are any -/
structure ActiveAmong (active : Option TabId) (ids : List TabId) : Prop where
  none_iff : active = none ↔ ids = []
  mem : ∀ id, active = some id → id ∈ ids

namespace ActiveAmong
variable {active : Option TabId} {ids : List TabId}

theorem last (ids : List TabId) : ActiveAmong ids.getLast? ids where
  none_iff := List.getLast?_eq_none_iff
  mem := fun _ h => List.mem_of_getLast? h

theorem append (ids : List TabId) (id : TabId) : ActiveAmong (some id) (ids ++ [id]) where
  none_iff := by simp
  mem := by
    intro other h
    cases h
    simp

/-- others than the active one go -/
theorem shed (h : ActiveAmong active ids) {gone : List TabId}
    (hno : ∀ id, active = some id → id ∉ gone) : ActiveAmong active (ids.filter (· ∉ gone)) := by
  have hmem : ∀ id, active = some id → id ∈ ids.filter (· ∉ gone) := fun id ha =>
    List.mem_filter.mpr ⟨h.mem id ha, decide_eq_true (hno id ha)⟩
  refine ⟨⟨fun hn => ?_, fun hnil => ?_⟩, hmem⟩
  · rw [h.none_iff.mp hn]
    rfl
  · cases ha : active with
    | none => rfl
    | some other =>
      have := hmem other ha
      rw [hnil] at this
      cases this

end ActiveAmong

namespace Tabs

/-! ## names -/

theorem filter_ne_of_nodup {κ : Type} [DecidableEq κ] {k : κ} {l : List κ} (h : (k :: l).Nodup) :
    (k :: l).filter (· ≠ k) = l := by
  have hk := (List.nodup_cons.mp h).1
  rw [List.filter_cons_of_neg (by simp), List.filter_eq_self]
  intro a ha
  have hne : a ≠ k := fun he => hk (he ▸ ha)
  simpa using hne

section
variable {t : Tabs} {w : WorksheetId} {id : TabId}

theorem mem_worksheetIds {x : Worksheet} (h : t.worksheet? w = some x) : w ∈ t.worksheetIds := by
  by_contra hno
  rw [worksheet?_eq_none.mpr hno] at h
  cases h

theorem mem_tabIds {x : QueryTab} (h : t.tab? id = some x) : id ∈ t.tabIds := by
  by_contra hno
  rw [tab?_eq_none.mpr hno] at h
  cases h

@[simp] theorem worksheetIds_insertTab (x : QueryTab) :
    (t.insertTab x).worksheetIds = t.worksheetIds := by
  refine map_modifyFirst Worksheet.id ?_ _
  exact fun _ => rfl

@[simp] theorem tabIds_insertTab (x : QueryTab) : (t.insertTab x).tabIds = t.tabIds ++ [x.id] := by
  simp [tabIds, insertTab, modifyWorksheet]

@[simp] theorem worksheetIds_insertWorksheet (name : String) :
    (t.insertWorksheet w name).worksheetIds = t.worksheetIds ++ [w] := by
  simp [worksheetIds, insertWorksheet]

@[simp] theorem tabIds_refreshTab (t : Tabs) (id : TabId) :
    (t.refreshTab id).tabIds = t.tabIds := by
  refine map_modifyFirst QueryTab.id ?_ _
  exact fun _ => rfl

end

/-! ## soundness -/

structure Sound (t : Tabs) : Prop where
  worksheets : t.worksheetIds.Nodup
  tabs : t.tabIds.Nodup
  homes : ∀ x ∈ t.tabs, x.worksheet ∈ t.worksheetIds
  editors : ∀ id, (t.editors.get? id).isSome ↔ id ∈ t.tabIds
  files : ∀ id, (t.files.get? id).isSome → id ∈ t.tabIds
  active : ∀ w ∈ t.worksheets, ActiveAmong w.active (t.idsOf w.id)

namespace Sound
variable {t : Tabs}

theorem empty : Sound Tabs.empty where
  worksheets := List.nodup_nil
  tabs := List.nodup_nil
  homes := nofun
  editors := by
    intro id
    simp [Tabs.empty, tabIds]
  files := by
    intro id h
    cases h
  active := nofun

theorem mem_worksheetIds_of_idsOf (h : t.Sound) {w : WorksheetId} {id : TabId}
    (hid : id ∈ t.idsOf w) : w ∈ t.worksheetIds := by
  obtain ⟨x, hx, rfl, _⟩ := mem_idsOf.mp hid
  exact h.homes x hx

theorem insertWorksheet (h : t.Sound) {id : WorksheetId} (hid : id ∉ t.worksheetIds)
    (name : String) : (t.insertWorksheet id name).Sound where
  worksheets := by
    rw [worksheetIds_insertWorksheet]
    exact List.nodup_append.mpr ⟨h.worksheets, by simp, fun w hw v hv he =>
      hid ((List.mem_singleton.mp hv) ▸ he ▸ hw)⟩
  tabs := h.tabs
  homes := by
    intro x hx
    rw [worksheetIds_insertWorksheet]
    exact List.mem_append_left _ (h.homes x hx)
  editors := h.editors
  files := h.files
  active := by
    intro w hw
    rcases List.mem_append.mp hw with hw | hw
    · exact h.active w hw
    · rw [List.mem_singleton.mp hw]
      have hnil : t.idsOf id = [] := by
        refine List.eq_nil_iff_forall_not_mem.mpr fun x hx => ?_
        obtain ⟨y, hy, rfl, _⟩ := mem_idsOf.mp hx
        exact hid (h.homes y hy)
      show ActiveAmong none (t.idsOf id)
      rw [hnil]
      exact ⟨by simp, nofun⟩

theorem insertTab (h : t.Sound) {x : QueryTab} (hid : x.id ∉ t.tabIds)
    (hw : x.worksheet ∈ t.worksheetIds) : (t.insertTab x).Sound where
  worksheets := by
    rw [worksheetIds_insertTab]
    exact h.worksheets
  tabs := by
    rw [tabIds_insertTab]
    exact List.nodup_append.mpr ⟨h.tabs, by simp, fun y hy z hz he =>
      hid ((List.mem_singleton.mp hz) ▸ he ▸ hy)⟩
  homes := by
    intro y hy
    rw [worksheetIds_insertTab]
    rcases List.mem_append.mp hy with hy | hy
    · exact h.homes y hy
    · rw [List.mem_singleton.mp hy]
      exact hw
  editors := by
    intro id
    rw [tabIds_insertTab]
    show ((t.editors.insert x.id Editor.empty).get? id).isSome ↔ _
    rw [Table.get?_insert]
    split
    · next he => simp [he]
    · next hne => simp [h.editors id, hne]
  files := by
    intro id hf
    rw [tabIds_insertTab]
    exact List.mem_append_left _ (h.files id hf)
  active := by
    intro w hmem
    -- the new tab is the active one of its worksheet, and belongs to no other
    have hids : (t.insertTab x).idsOf w.id =
        if x.worksheet = w.id then t.idsOf w.id ++ [x.id] else t.idsOf w.id := by
      simp only [idsOf, tabsOf, Tabs.insertTab, modifyWorksheet, List.filter_append,
        List.map_append]
      split
      · next he => simp [he]
      · next hne => simp [hne]
    rw [hids]
    rcases mem_modifyFirst Worksheet.id h.worksheets hmem with
      ⟨v, hv, hid', rfl⟩ | ⟨hmem, hne⟩
    · rw [if_pos hid'.symm]
      exact .append _ _
    · rw [if_neg fun he => hne he.symm]
      exact h.active w hmem

/-! ### what goes -/

theorem distinct (h : t.Sound) : t.Distinct := ⟨h.worksheets, h.tabs⟩

/-- a tab that is not there has no editor and no file to take along -/
theorem sheds_removeTab (h : t.Sound) (id : TabId) : Sheds [id] t (t.removeTab id) := by
  by_cases hid : id ∈ t.tabIds
  · exact h.distinct.sheds_removeTab hid
  · have heditor := mt (h.editors id).mp hid
    have hfile := mt (h.files id) hid
    rw [Bool.not_eq_true, Option.isSome_eq_false_iff, Option.isNone_iff_eq_none] at heditor hfile
    rw [removeTab_of_not_mem hid]
    constructor
    · refine (List.filter_eq_self.mpr fun x hx => ?_).symm
      have hne : x.id ≠ id := fun he => hid (he ▸ List.mem_map_of_mem hx)
      simpa using hne
    · intro other
      split
      · next he => rw [List.mem_singleton.mp he, heditor]
      · rfl
    · intro other
      split
      · next he => rw [List.mem_singleton.mp he, hfile]
      · rfl

/-- a worksheet that is not there has no tabs -/
theorem sheds_removeWorksheet (h : t.Sound) (w : WorksheetId) :
    Sheds (t.idsOf w) t (t.removeWorksheet w) := by
  by_cases hw : w ∈ t.worksheetIds
  · exact h.distinct.sheds_removeWorksheet hw
  · have hnil : t.idsOf w = [] :=
      List.eq_nil_iff_forall_not_mem.mpr fun _ hid => hw (h.mem_worksheetIds_of_idsOf hid)
    rw [removeWorksheet_of_not_mem hw, hnil]
    exact .nil t

theorem tabIds_removeTab (h : t.Sound) (id : TabId) :
    (t.removeTab id).tabIds = t.tabIds.filter (· ≠ id) := by
  simpa using (h.sheds_removeTab id).tabIds_eq

theorem idsOf_removeTab (h : t.Sound) (id : TabId) (w : WorksheetId) :
    (t.removeTab id).idsOf w = (t.idsOf w).filter (· ≠ id) := by
  simpa using (h.sheds_removeTab id).idsOf_eq w

/-- what is left hangs together when tabs have gone, each with what is its own, and every tab that
is left has its worksheet and every worksheet its active tab -/
theorem of_sheds {t' : Tabs} {ids : List TabId} (h : t.Sound) (hs : Sheds ids t t')
    (hn : t'.worksheetIds.Nodup) (homes : ∀ x ∈ t'.tabs, x.worksheet ∈ t'.worksheetIds)
    (active : ∀ w ∈ t'.worksheets, ActiveAmong w.active (t'.idsOf w.id)) : t'.Sound where
  worksheets := hn
  tabs := by
    rw [hs.tabIds_eq]
    exact h.tabs.filter _
  homes := homes
  editors := by
    intro id
    rw [hs.editors, hs.mem_tabIds, ← h.editors id]
    split
    · next hid => simp [hid]
    · next hid => simp [hid]
  files := by
    intro id hf
    rw [hs.files] at hf
    split at hf
    · cases hf
    · next hid => exact hs.mem_tabIds.mpr ⟨h.files id hf, hid⟩
  active := active

/-- if a tab was the active one of its worksheet, the last of those that stay takes its place -/
theorem removeTab (h : t.Sound) (id : TabId) : (t.removeTab id).Sound := by
  by_cases hid : id ∈ t.tabIds
  · obtain ⟨x, hx, rfl⟩ := List.mem_map.mp hid
    have hsheds := h.sheds_removeTab x.id
    refine h.of_sheds hsheds ?_ ?_ ?_
    · rw [worksheetIds_removeTab]
      exact h.worksheets
    · rw [hsheds.tabs, worksheetIds_removeTab]
      exact fun y hy => h.homes y (List.mem_filter.mp hy).1
    · rw [h.distinct.worksheets_removeTab hx]
      intro w hw
      obtain ⟨v, hv, rfl⟩ := List.mem_map.mp hw
      split
      · rw [← List.getLast?_map]
        exact .last _
      · next hno =>
        rw [hsheds.idsOf_eq]
        refine (h.active v hv).shed fun other ha hmem => hno ?_
        rw [List.mem_singleton] at hmem
        subst hmem
        exact ⟨((h.distinct.mem_idsOf_iff hx).mp ((h.active v hv).mem _ ha)).symm, ha⟩
  · rw [removeTab_of_not_mem hid]
    exact h

/-- the other worksheets keep their tabs -/
theorem removeWorksheet (h : t.Sound) (w : WorksheetId) : (t.removeWorksheet w).Sound := by
  have hsheds := h.sheds_removeWorksheet w
  refine h.of_sheds hsheds ?_ ?_ ?_
  · rw [h.distinct.worksheetIds_removeWorksheet]
    exact h.worksheets.filter _
  · rw [hsheds.tabs, h.distinct.worksheetIds_removeWorksheet]
    intro x hx
    obtain ⟨hx, hstays⟩ := List.mem_filter.mp hx
    have hne : x.worksheet ≠ w := fun he =>
      of_decide_eq_true hstays ((h.distinct.mem_idsOf_iff hx).mpr he)
    exact List.mem_filter.mpr ⟨h.homes x hx, decide_eq_true hne⟩
  · rw [h.distinct.worksheets_removeWorksheet]
    intro v hv
    obtain ⟨hv, hne⟩ := List.mem_filter.mp hv
    rw [hsheds.idsOf_eq]
    refine (h.active v hv).shed fun id ha hid => of_decide_eq_true hne ?_
    obtain ⟨x, hx, hxw, rfl⟩ := mem_idsOf.mp hid
    exact ((h.distinct.mem_idsOf_iff hx).mp ((h.active v hv).mem _ ha)).symm.trans hxw

/-! ### what changes -/

theorem edit (h : t.Sound) (id : TabId) (e : Editor) : (t.edit id e).Sound :=
  { h with
    editors := by
      intro other
      have hsame := Table.contains_modify t.editors id other fun _ => e
      exact (Bool.eq_iff_iff.mp hsame).trans (h.editors other) }

theorem bindFile (h : t.Sound) {id : TabId} (hid : id ∈ t.tabIds) (path : String) :
    (t.bindFile id path).Sound :=
  { h with
    files := by
      intro other hf
      have hf' : ((t.files.insert id path).get? other).isSome := hf
      rw [Table.get?_insert] at hf'
      split at hf'
      · next he => exact he ▸ hid
      · exact h.files other hf' }

theorem unbindFile (h : t.Sound) (id : TabId) : (t.unbindFile id).Sound :=
  { h with
    files := by
      intro other hf
      have hf' : ((t.files.erase id).get? other).isSome := hf
      rw [Table.get?_erase] at hf'
      split at hf'
      · cases hf'
      · exact h.files other hf' }

/-- a tab changes, but not its name or its worksheet -/
theorem modifyTab (h : t.Sound) (id : TabId) {f : QueryTab → QueryTab} (hid : ∀ x, (f x).id = x.id)
    (hw : ∀ x, (f x).worksheet = x.worksheet) : (t.modifyTab id f).Sound := by
  have hids : (t.modifyTab id f).tabIds = t.tabIds := map_modifyFirst QueryTab.id hid _
  have hof : ∀ w, (t.modifyTab id f).idsOf w = t.idsOf w := fun w =>
    filter_modifyFirst QueryTab.id (fun x => by rw [hw]) hid _
  exact {
    worksheets := h.worksheets
    tabs := by
      rw [hids]
      exact h.tabs
    homes := by
      have hmap : (t.modifyTab id f).tabs.map (·.worksheet) = t.tabs.map (·.worksheet) :=
        map_modifyFirst QueryTab.worksheet hw _
      intro x hx
      have hmem : x.worksheet ∈ t.tabs.map (·.worksheet) := hmap ▸ List.mem_map_of_mem hx
      obtain ⟨y, hy, he⟩ := List.mem_map.mp hmem
      exact he ▸ h.homes y hy
    editors := by
      rw [hids]
      exact h.editors
    files := by
      rw [hids]
      exact h.files
    active := by
      intro w hmem
      rw [hof]
      exact h.active w hmem }

theorem refreshTab (h : t.Sound) (id : TabId) : (t.refreshTab id).Sound := by
  refine unbindFile (edit (h.modifyTab id ?_ ?_) id Editor.empty) id
  · exact fun _ => rfl
  · exact fun _ => rfl

end Sound

end Tabs

end QueryDesk
