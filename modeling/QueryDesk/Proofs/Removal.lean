import Mathlib.Data.List.Nodup
import QueryDesk.Session.Tabs

/-!
# What goes with a tab and with a worksheet

* `Tabs.tabIds`, `worksheetIds`, `idsOf`   the names that are taken, and those of the tabs of a
  worksheet;
* `Tabs.Distinct`        no two worksheets and no two tabs have one name;
* `Tabs.Sheds ids t t'`  from `t` to `t'` these tabs go, each with its editor and its file, and no
  others.

A worksheet goes after its tabs, which go one at a time.  Each of them takes along what is its own
and leaves the other worksheets alone, so all of them do (`sheds_foldl_removeTab`,
`others_foldl_removeTab`).  The worksheet itself keeps its place meanwhile
(`removeWorksheet_eq_eraseIdx`).

**`removals_exact`**: what goes with a worksheet and with a tab, and that all else stays.
-/

namespace QueryDesk.Tabs

/-! ## the first of its name -/

section
variable {α β κ : Type} {p : α → Bool} {f : α → α} [DecidableEq κ] {k : κ} {l : List α}

/-- a change that `g` does not see -/
theorem map_modifyFirst (g : α → β) (h : ∀ a, g (f a) = g a) (l : List α) :
    (modifyFirst p f l).map g = l.map g := by
  induction l with
  | nil => rfl
  | cons a l ih =>
    rw [modifyFirst]
    split
    · rw [List.map_cons, h, List.map_cons]
    · rw [List.map_cons, ih, List.map_cons]

theorem filter_modifyFirst {q : α → Bool} (g : α → β) (hq : ∀ a, q (f a) = q a)
    (h : ∀ a, g (f a) = g a) (l : List α) :
    ((modifyFirst p f l).filter q).map g = (l.filter q).map g := by
  induction l with
  | nil => rfl
  | cons a l ih =>
    rw [modifyFirst]
    split
    · simp only [List.filter_cons, hq]
      split
      · rw [List.map_cons, h, List.map_cons]
      · rfl
    · simp only [List.filter_cons]
      split
      · rw [List.map_cons, ih, List.map_cons]
      · exact ih

/-- when no two items have one key, the first of a key is all of that key -/
theorem modifyFirst_eq_map (key : α → κ) (hn : (l.map key).Nodup) :
    modifyFirst (fun a => key a = k) f l = l.map fun a => if key a = k then f a else a := by
  induction l with
  | nil => rfl
  | cons b l ih =>
    rw [List.map_cons, List.nodup_cons] at hn
    by_cases hb : key b = k
    · have hrest : ∀ a ∈ l, (if key a = k then f a else a) = a := by
        intro a ha
        have hne : key a ≠ k := fun he => hn.1 (hb ▸ he ▸ List.mem_map_of_mem ha)
        exact if_neg hne
      rw [modifyFirst, if_pos (by simp [hb]), List.map_cons, if_pos hb, List.map_congr_left hrest,
        List.map_id']
    · rw [modifyFirst, if_neg (by simp [hb]), List.map_cons, if_neg hb, ih hn.2]

theorem mem_modifyFirst {a : α} (key : α → κ) (hn : (l.map key).Nodup)
    (h : a ∈ modifyFirst (fun a => key a = k) f l) :
    (∃ b ∈ l, key b = k ∧ a = f b) ∨ (a ∈ l ∧ key a ≠ k) := by
  rw [modifyFirst_eq_map key hn] at h
  obtain ⟨b, hb, rfl⟩ := List.mem_map.mp h
  split
  · next hk => exact .inl ⟨b, hb, hk, rfl⟩
  · next hk => exact .inr ⟨hb, hk⟩

theorem eraseP_eq_filter (key : α → κ) (hn : (l.map key).Nodup) :
    l.eraseP (fun a => key a = k) = l.filter (fun a => key a ≠ k) := by
  induction l with
  | nil => rfl
  | cons b l ih =>
    rw [List.map_cons, List.nodup_cons] at hn
    by_cases hb : key b = k
    · rw [List.eraseP_cons_of_pos (by simp [hb]), List.filter_cons_of_neg (by simp [hb])]
      refine (List.filter_eq_self.mpr fun a ha => ?_).symm
      have hne : key a ≠ k := fun he => hn.1 (hb ▸ he ▸ List.mem_map_of_mem ha)
      simpa using hne
    · rw [List.eraseP_cons_of_neg (by simp [hb]), List.filter_cons_of_pos (by simp [hb]), ih hn.2]

/-- the items under other keys -/
theorem filter_ne_modifyFirst (key : α → κ) (h : ∀ a, key (f a) = key a) (l : List α) :
    (modifyFirst (fun a => key a = k) f l).filter (fun a => key a ≠ k) =
      l.filter fun a => key a ≠ k := by
  induction l with
  | nil => rfl
  | cons a l ih =>
    by_cases ha : key a = k
    · rw [modifyFirst, if_pos (by simp [ha]), List.filter_cons_of_neg (by simp [h, ha]),
        List.filter_cons_of_neg (by simp [ha])]
    · rw [modifyFirst, if_neg (by simp [ha]), List.filter_cons, List.filter_cons, ih]

end

/-! ## names -/

def tabIds (t : Tabs) : List TabId := t.tabs.map (·.id)

def worksheetIds (t : Tabs) : List WorksheetId := t.worksheets.map (·.id)

/-- the tabs of a worksheet, by their names -/
def idsOf (t : Tabs) (w : WorksheetId) : List TabId := (t.tabsOf w).map (·.id)

section
variable {t : Tabs} {w : WorksheetId} {id : TabId}

theorem mem_idsOf : id ∈ t.idsOf w ↔ ∃ x ∈ t.tabs, x.worksheet = w ∧ x.id = id := by
  simp [idsOf, tabsOf, and_assoc]

theorem mem_tabIds_of_idsOf (h : id ∈ t.idsOf w) : id ∈ t.tabIds := by
  obtain ⟨x, hx, _, rfl⟩ := mem_idsOf.mp h
  exact List.mem_map_of_mem hx

theorem mem_of_tab? {x : QueryTab} (h : t.tab? id = some x) : x ∈ t.tabs ∧ x.id = id :=
  ⟨List.mem_of_find?_eq_some h, by simpa using List.find?_some h⟩

theorem tab?_eq_none : t.tab? id = none ↔ id ∉ t.tabIds := by
  simp [tab?, tabIds]

theorem worksheet?_eq_none : t.worksheet? w = none ↔ w ∉ t.worksheetIds := by
  simp [worksheet?, worksheetIds]

theorem exists_tab? (h : id ∈ t.tabIds) : ∃ x, t.tab? id = some x :=
  Option.ne_none_iff_exists'.mp fun hx => tab?_eq_none.mp hx h

theorem exists_worksheet? (h : w ∈ t.worksheetIds) : ∃ x, t.worksheet? w = some x :=
  Option.ne_none_iff_exists'.mp fun hx => worksheet?_eq_none.mp hx h

end

/-- no two worksheets and no two tabs have one name -/
structure Distinct (t : Tabs) : Prop where
  worksheets : t.worksheetIds.Nodup
  tabs : t.tabIds.Nodup

namespace Distinct
variable {t : Tabs} {w : WorksheetId}

theorem tab_eq (h : t.Distinct) {x y : QueryTab} (hx : x ∈ t.tabs) (hy : y ∈ t.tabs)
    (hid : x.id = y.id) : x = y :=
  List.inj_on_of_nodup_map h.tabs hx hy hid

theorem tab?_of_mem (h : t.Distinct) {x : QueryTab} (hx : x ∈ t.tabs) : t.tab? x.id = some x := by
  obtain ⟨y, hy⟩ := exists_tab? (List.mem_map_of_mem hx)
  obtain ⟨hmem, hid⟩ := mem_of_tab? hy
  rw [hy, h.tab_eq hmem hx hid]

theorem nodup_idsOf (h : t.Distinct) (w : WorksheetId) : (t.idsOf w).Nodup :=
  h.tabs.sublist (List.filter_sublist.map _)

theorem mem_idsOf_iff (h : t.Distinct) {x : QueryTab} (hx : x ∈ t.tabs) :
    x.id ∈ t.idsOf w ↔ x.worksheet = w := by
  refine ⟨fun hid => ?_, fun hw => mem_idsOf.mpr ⟨x, hx, hw, rfl⟩⟩
  obtain ⟨y, hy, hyw, hid⟩ := mem_idsOf.mp hid
  rw [h.tab_eq hx hy hid.symm, hyw]

end Distinct

/-! ## tabs that go -/

/-- from `t` to `t'` these tabs go, each with its editor and its file, and no others -/
structure Sheds (ids : List TabId) (t t' : Tabs) : Prop where
  tabs : t'.tabs = t.tabs.filter (·.id ∉ ids)
  editors : ∀ id, t'.editors.get? id = if id ∈ ids then none else t.editors.get? id
  files : ∀ id, t'.files.get? id = if id ∈ ids then none else t.files.get? id

namespace Sheds
variable {t t' t'' : Tabs} {ids ids' : List TabId}

theorem nil (t : Tabs) : Sheds [] t t where
  tabs := (List.filter_eq_self.mpr fun _ _ => by simp).symm
  editors := fun _ => (if_neg List.not_mem_nil).symm
  files := fun _ => (if_neg List.not_mem_nil).symm

theorem append (h : Sheds ids t t') (h' : Sheds ids' t' t'') : Sheds (ids ++ ids') t t'' where
  tabs := by
    rw [h'.tabs, h.tabs, List.filter_filter]
    refine List.filter_congr fun x _ => ?_
    simp [Bool.and_comm]
  editors := by
    intro id
    rw [h'.editors, h.editors]
    by_cases hid : id ∈ ids <;> by_cases hid' : id ∈ ids' <;> simp [hid, hid']
  files := by
    intro id
    rw [h'.files, h.files]
    by_cases hid : id ∈ ids <;> by_cases hid' : id ∈ ids' <;> simp [hid, hid']

theorem tabIds_eq (h : Sheds ids t t') : t'.tabIds = t.tabIds.filter (· ∉ ids) := by
  rw [tabIds, h.tabs, tabIds, List.filter_map]
  rfl

theorem idsOf_eq (h : Sheds ids t t') (w : WorksheetId) :
    t'.idsOf w = (t.idsOf w).filter (· ∉ ids) := by
  rw [idsOf, tabsOf, h.tabs, idsOf, tabsOf, List.filter_map, List.filter_filter,
    List.filter_filter]
  refine congrArg (List.map _) (List.filter_congr fun x _ => ?_)
  simp [Bool.and_comm]

theorem mem_tabIds (h : Sheds ids t t') {id : TabId} :
    id ∈ t'.tabIds ↔ id ∈ t.tabIds ∧ id ∉ ids := by
  rw [h.tabIds_eq, List.mem_filter, decide_eq_true_eq]

theorem mem_idsOf (h : Sheds ids t t') {id : TabId} {w : WorksheetId} :
    id ∈ t'.idsOf w ↔ id ∈ t.idsOf w ∧ id ∉ ids := by
  rw [h.idsOf_eq, List.mem_filter, decide_eq_true_eq]

end Sheds

/-! ## a tab goes -/

theorem sublist_removeTab (t : Tabs) (id : TabId) : (t.removeTab id).tabs.Sublist t.tabs := by
  unfold removeTab
  split
  · exact List.Sublist.refl _
  · exact List.eraseP_sublist

@[simp] theorem worksheetIds_removeTab (t : Tabs) (id : TabId) :
    (t.removeTab id).worksheetIds = t.worksheetIds := by
  unfold removeTab
  split
  · rfl
  · refine map_modifyFirst Worksheet.id (fun w => ?_) _
    split <;> rfl

section
variable {t : Tabs} {id : TabId} {w : WorksheetId} {x : QueryTab}

theorem removeTab_of_not_mem (h : id ∉ t.tabIds) : t.removeTab id = t := by
  simp only [removeTab, tab?_eq_none.mpr h]

theorem Distinct.sheds_removeTab (h : t.Distinct) (hid : id ∈ t.tabIds) :
    Sheds [id] t (t.removeTab id) := by
  obtain ⟨x, hx⟩ := exists_tab? hid
  constructor
  · simp only [removeTab, hx, modifyWorksheet, List.mem_singleton]
    exact eraseP_eq_filter QueryTab.id h.tabs
  · intro other
    simp only [removeTab, hx, modifyWorksheet, List.mem_singleton]
    exact Table.get?_erase ..
  · intro other
    simp only [removeTab, hx, modifyWorksheet, List.mem_singleton]
    exact Table.get?_erase ..

theorem Distinct.removeTab (h : t.Distinct) (id : TabId) : (t.removeTab id).Distinct where
  worksheets := by
    rw [worksheetIds_removeTab]
    exact h.worksheets
  tabs := h.tabs.sublist ((t.sublist_removeTab id).map _)

/-- a worksheet whose active tab goes falls back on the last of its tabs that are left -/
theorem Distinct.worksheets_removeTab (h : t.Distinct) (hx : x ∈ t.tabs) :
    (t.removeTab x.id).worksheets = t.worksheets.map fun v =>
      if v.id = x.worksheet ∧ v.active = some x.id then
        { v with active := ((t.removeTab x.id).tabsOf v.id).getLast?.map (·.id) }
      else v := by
  simp only [Tabs.removeTab, h.tab?_of_mem hx, modifyWorksheet]
  -- its own worksheet is the only one that may have to choose another tab
  rw [modifyFirst_eq_map Worksheet.id h.worksheets]
  refine List.map_congr_left fun v _ => ?_
  by_cases hv : v.id = x.worksheet
  · simp only [hv, true_and, if_true]
    rfl
  · simp only [hv, false_and, if_false]

/-- a tab leaves the worksheets of others alone -/
theorem others_removeTab (h : ∀ x ∈ t.tabs, x.id = id → x.worksheet = w) :
    (t.removeTab id).worksheets.filter (·.id ≠ w) = t.worksheets.filter (·.id ≠ w) := by
  unfold Tabs.removeTab
  split
  · rfl
  · next x hx =>
    obtain ⟨hmem, hid⟩ := mem_of_tab? hx
    rw [← h x hmem hid]
    refine filter_ne_modifyFirst Worksheet.id (fun v => ?_) _
    split <;> rfl

/-! ## a worksheet goes with its tabs -/

theorem worksheetIds_foldl_removeTab (t : Tabs) (ids : List TabId) :
    (ids.foldl Tabs.removeTab t).worksheetIds = t.worksheetIds := by
  induction ids generalizing t with
  | nil => rfl
  | cons id ids ih => exact (ih _).trans (t.worksheetIds_removeTab id)

theorem sublist_foldl_removeTab (t : Tabs) (ids : List TabId) :
    (ids.foldl Tabs.removeTab t).tabs.Sublist t.tabs := by
  induction ids generalizing t with
  | nil => exact List.Sublist.refl _
  | cons id ids ih => exact (ih (t.removeTab id)).trans (t.sublist_removeTab id)

theorem Distinct.sheds_foldl_removeTab (h : t.Distinct) {ids : List TabId} (hn : ids.Nodup)
    (hids : ids ⊆ t.tabIds) : Sheds ids t (ids.foldl Tabs.removeTab t) := by
  induction ids generalizing t with
  | nil => exact .nil t
  | cons id ids ih =>
    have hfirst := h.sheds_removeTab (hids List.mem_cons_self)
    obtain ⟨hno, hn⟩ := List.nodup_cons.mp hn
    -- the others are still there when the first has gone
    refine hfirst.append (ih (h.removeTab id) hn fun other ho => ?_)
    have hne : other ≠ id := fun he => hno (he ▸ ho)
    rw [hfirst.tabIds_eq]
    exact List.mem_filter.mpr ⟨hids (List.mem_cons_of_mem id ho), by simpa using hne⟩

theorem others_foldl_removeTab {ids : List TabId}
    (h : ∀ x ∈ t.tabs, x.id ∈ ids → x.worksheet = w) :
    (ids.foldl Tabs.removeTab t).worksheets.filter (·.id ≠ w) =
      t.worksheets.filter (·.id ≠ w) := by
  induction ids generalizing t with
  | nil => rfl
  | cons id ids ih =>
    refine (ih fun x hx hid => ?_).trans (others_removeTab fun x hx hid => ?_)
    · exact h x ((t.sublist_removeTab id).subset hx) (List.mem_cons_of_mem id hid)
    · exact h x hx (hid ▸ List.mem_cons_self)

theorem removeWorksheet_of_not_mem (h : w ∉ t.worksheetIds) : t.removeWorksheet w = t := by
  simp only [removeWorksheet, worksheet?_eq_none.mpr h]

theorem removeWorksheet_of_mem (h : w ∈ t.worksheetIds) : t.removeWorksheet w =
    { (t.idsOf w).foldl Tabs.removeTab t with
      worksheets := ((t.idsOf w).foldl Tabs.removeTab t).worksheets.eraseP (·.id = w) } := by
  obtain ⟨v, hv⟩ := exists_worksheet? h
  simp only [removeWorksheet, hv]
  rfl

/-- a worksheet keeps its place while its tabs go -/
theorem findIdx?_foldl_removeTab (t : Tabs) (ids : List TabId) (w : WorksheetId) :
    (ids.foldl Tabs.removeTab t).worksheets.findIdx? (·.id = w) =
      t.worksheets.findIdx? (·.id = w) := by
  have hnames : ∀ t : Tabs, t.worksheets.findIdx? (·.id = w) = t.worksheetIds.findIdx? (· = w) := by
    intro t
    rw [worksheetIds, List.findIdx?_map]
    rfl
  rw [hnames, hnames, worksheetIds_foldl_removeTab]

/-- ... so it may be taken out where it stood before -/
theorem removeWorksheet_eq_eraseIdx (t : Tabs) (w : WorksheetId) : t.removeWorksheet w =
    match t.worksheets.findIdx? (·.id = w) with
    | none => t
    | some i =>
      let rest := (t.idsOf w).foldl Tabs.removeTab t
      { rest with worksheets := rest.worksheets.eraseIdx i } := by
  cases hi : t.worksheets.findIdx? (·.id = w) with
  | none =>
    refine removeWorksheet_of_not_mem fun hw => ?_
    obtain ⟨v, hv, hid⟩ := List.mem_map.mp hw
    simpa [hid] using List.findIdx?_eq_none_iff.mp hi v hv
  | some i =>
    have hw : w ∈ t.worksheetIds := by
      have hany : t.worksheets.any (·.id = w) = true := by
        rw [← List.findIdx?_isSome, hi]
        rfl
      simpa [worksheetIds] using hany
    rw [removeWorksheet_of_mem hw, List.eraseP_eq_eraseIdx, findIdx?_foldl_removeTab, hi]

namespace Distinct

theorem sheds_removeWorksheet (h : t.Distinct) (hw : w ∈ t.worksheetIds) :
    Sheds (t.idsOf w) t (t.removeWorksheet w) := by
  have hsheds := h.sheds_foldl_removeTab (h.nodup_idsOf w) fun _ => mem_tabIds_of_idsOf
  rw [removeWorksheet_of_mem hw]
  exact ⟨hsheds.tabs, hsheds.editors, hsheds.files⟩

theorem tabs_removeWorksheet (h : t.Distinct) (hw : w ∈ t.worksheetIds) :
    (t.removeWorksheet w).tabs = t.tabs.filter (·.worksheet ≠ w) := by
  rw [(h.sheds_removeWorksheet hw).tabs]
  exact List.filter_congr fun x hx => by simp [h.mem_idsOf_iff hx]

theorem worksheets_removeWorksheet (h : t.Distinct) (w : WorksheetId) :
    (t.removeWorksheet w).worksheets = t.worksheets.filter (·.id ≠ w) := by
  by_cases hw : w ∈ t.worksheetIds
  · -- no name of a worksheet changes on the way, so the first of the name is the only one
    have hn : ((t.idsOf w).foldl Tabs.removeTab t).worksheetIds.Nodup := by
      rw [worksheetIds_foldl_removeTab]
      exact h.worksheets
    rw [removeWorksheet_of_mem hw]
    show ((t.idsOf w).foldl Tabs.removeTab t).worksheets.eraseP (fun v => v.id = w) = _
    rw [eraseP_eq_filter Worksheet.id hn]
    exact others_foldl_removeTab fun x hx => (h.mem_idsOf_iff hx).mp
  · rw [removeWorksheet_of_not_mem hw]
    refine (List.filter_eq_self.mpr fun v hv => ?_).symm
    have hne : v.id ≠ w := fun he => hw (he ▸ List.mem_map_of_mem hv)
    simpa using hne

theorem worksheetIds_removeWorksheet (h : t.Distinct) (w : WorksheetId) :
    (t.removeWorksheet w).worksheetIds = t.worksheetIds.filter (· ≠ w) := by
  rw [worksheetIds, h.worksheets_removeWorksheet, worksheetIds, List.filter_map]
  rfl

end Distinct

end

/-- **Exactly this goes.**  With a worksheet go its tabs, their editors and their files, and all
other worksheets keep their places, their names and their active tabs.  With a tab go its editor and
its file; only its own worksheet, and only if the tab was the active one, falls back on the last of
its tabs that are left.  What is not there takes nothing with it. -/
theorem removals_exact {t : Tabs} (h : t.Distinct) :
    (∀ w ∈ t.worksheetIds, Sheds (t.idsOf w) t (t.removeWorksheet w) ∧
      (t.removeWorksheet w).tabs = t.tabs.filter (·.worksheet ≠ w) ∧
      (t.removeWorksheet w).worksheets = t.worksheets.filter (·.id ≠ w)) ∧
    (∀ w ∉ t.worksheetIds, t.removeWorksheet w = t) ∧
    (∀ x ∈ t.tabs, Sheds [x.id] t (t.removeTab x.id) ∧
      (t.removeTab x.id).worksheets = t.worksheets.map fun v =>
        if v.id = x.worksheet ∧ v.active = some x.id then
          { v with active := ((t.removeTab x.id).tabsOf v.id).getLast?.map (·.id) }
        else v) ∧
    ∀ id ∉ t.tabIds, t.removeTab id = t := by
  refine ⟨fun w hw => ?_, fun w => removeWorksheet_of_not_mem, fun x hx => ?_,
    fun id => removeTab_of_not_mem⟩
  · exact ⟨h.sheds_removeWorksheet hw, h.tabs_removeWorksheet hw, h.worksheets_removeWorksheet w⟩
  · exact ⟨h.sheds_removeTab (List.mem_map_of_mem hx), h.worksheets_removeTab hx⟩

/-- two worksheets; the tabs of the first stand on both sides of the one of the second -/
def ofTwo : Tabs :=
  ((((empty.insertWorksheet ⟨1⟩ "A").insertWorksheet ⟨2⟩ "B").insertTab
    ⟨⟨1⟩, ⟨1⟩, firstName, 1⟩).insertTab ⟨⟨2⟩, ⟨2⟩, firstName, 1⟩).insertTab
    ⟨⟨3⟩, ⟨1⟩, "Query Tab 2", 2⟩

theorem removals_exact_ofTwo : ofTwo.Distinct ∧
    (Sheds [⟨1⟩, ⟨3⟩] ofTwo (ofTwo.removeWorksheet ⟨1⟩) ∧
      (ofTwo.removeWorksheet ⟨1⟩).tabs = [⟨⟨2⟩, ⟨2⟩, firstName, 1⟩] ∧
      (ofTwo.removeWorksheet ⟨1⟩).worksheets = [⟨⟨2⟩, "B", some ⟨2⟩⟩]) ∧
    Sheds [⟨3⟩] ofTwo (ofTwo.removeTab ⟨3⟩) ∧
      (ofTwo.removeTab ⟨3⟩).worksheets = [⟨⟨1⟩, "A", some ⟨1⟩⟩, ⟨⟨2⟩, "B", some ⟨2⟩⟩] := by
  have hd : ofTwo.Distinct := ⟨by decide, by decide⟩
  have hx : (⟨⟨3⟩, ⟨1⟩, "Query Tab 2", 2⟩ : QueryTab) ∈ ofTwo.tabs :=
    List.mem_append_right _ (List.mem_singleton_self _)
  obtain ⟨hworksheet, -, htab, -⟩ := removals_exact hd
  obtain ⟨hgone, htabs, hworksheets⟩ := hworksheet ⟨1⟩ (by decide)
  obtain ⟨hsheds, hfalls⟩ := htab _ hx
  exact ⟨hd, ⟨hgone, htabs.trans rfl, hworksheets.trans rfl⟩, hsheds, hfalls.trans rfl⟩

end QueryDesk.Tabs
