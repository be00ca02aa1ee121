import QueryDesk.Proofs.WorksheetConnection

/-!
# What a closed worksheet leaves behind

A worksheet is closed while other operations on it go on, each of whose calls may stay out for as
long as it likes.

* `Belonged u run w tab`     the tab has been one of the worksheet;
* `NothingLeft u run w`      of the worksheet, and of every tab that it had, nothing is left;
* `Traffic.OverlooksTab`     the worksheet goes while it has a tab that its closing does not delete;
* `Thorough`                 the closing has succeeded, has overlooked no tab, and no connection has
  come for the worksheet since the closing looked for one.

**`Traffic.nothing_left_iff`**: nothing is left if and only if the closing was thorough.
**`Traffic.tab_left_behind`**: it need not be.
-/

namespace QueryDesk

/-! ## what is left -/

namespace Session

/-- nothing that belongs to the tab is there -/
structure Rid (s : Session) (tab : TabId) : Prop where
  absent : tab ∉ s.store.tabs.tabIds
  memory : s.memory? tab = none
  editor : s.store.tabs.editors.get? tab = none
  file : s.store.tabs.files.get? tab = none
  connection : .tab tab ∉ s.store.connections.bindings

/-- once the calls are in, a tab that has gone with its memory has gone with all it had -/
theorem Gone.rid {s : Session} {tab : TabId} (h : s.Gone tab) (ht : Tended s []) : s.Rid tab where
  absent := h.absent
  memory := by simpa using h.memory
  editor := by simpa [h.absent] using ht.orderly.tabs.editors tab
  file := by
    cases hf : s.store.tabs.files.get? tab with
    | none => rfl
    | some path => exact absurd (ht.orderly.tabs.files tab (by rw [hf]; rfl)) h.absent
  connection := by
    intro hb
    obtain ⟨⟨b, id⟩, hl, rfl⟩ := List.mem_map.mp hb
    obtain ⟨next, hmem⟩ := ht.gone tab id h hl
    cases hmem

end Session

namespace Traffic

def Belonged (u : Setup) (run : List Event) (w : WorksheetId) (tab : TabId) : Prop :=
  ∃ early, early <:+ run ∧ tab ∈ (after u early).session.store.tabs.idsOf w

structure NothingLeft (u : Setup) (run : List Event) (w : WorksheetId) : Prop where
  worksheet : w ∉ (after u run).session.store.tabs.worksheetIds
  tabs : (after u run).session.store.tabs.idsOf w = []
  connection : .worksheet w ∉ (after u run).session.store.connections.bindings
  belongings : ∀ tab, Belonged u run w tab → (after u run).session.Rid tab

/-! ## what becomes of a tab -/

/-- the worksheet goes while it has a tab that is not still to be deleted -/
def OverlooksTab (t : Traffic) (e : Event) (w : WorksheetId) : Prop :=
  w ∉ (t.step e).session.store.tabs.worksheetIds ∧
    ∃ tab ∈ t.session.store.tabs.idsOf w, (t.cause e).Overlooks w tab

instance (t : Traffic) (e : Event) (w : WorksheetId) : Decidable (t.OverlooksTab e w) :=
  inferInstanceAs (Decidable (_ ∧ _))

section
variable {u : Setup} {run early late : List Event} {w : WorksheetId} {tab : TabId} {e : Event}

/-- a tab is there, has gone with its memory, or was overlooked -/
theorem tab_fate (hf : (fresh u).Throughout (fun t => t.session.Files) run) (h : early <:+ run)
    (ht : tab ∈ (after u early).session.store.tabs.idsOf w) :
    tab ∈ (after u run).session.store.tabs.idsOf w ∨ (after u run).session.Gone tab ∨
      ((after u run).session.Left tab ∧
        ¬ (fresh u).Throughout (fun t e => ¬ t.OverlooksTab e w) run) := by
  induction run with
  | nil =>
    cases List.suffix_nil.mp h
    exact .inl ht
  | cons e run ih =>
    rcases List.suffix_cons_iff.mp h with rfl | hsuf
    · exact .inl ht
    · have ho := (tended_after hf.2).orderly
      have hd : tab.number ≤ (after u run).session.tabsDrawn :=
        Nat.le_trans ((tended_after (hf.2.of_suffix hsuf)).orderly.tab_le
          (Tabs.mem_tabIds_of_idsOf ht)) (drawn_le hf.2 hsuf).2
      obtain ⟨st, as, hg⟩ := (after u run).goes e hf.1
      rcases ih hf.2 hsuf with hin | hgone | ⟨hleft, hover⟩
      · have hhere := hg.moves.here ho hin
        rw [← hg.session] at hhere
        refine hhere.imp_right fun hrest => hrest.imp_right ?_
        rintro ⟨hleft, hover, hw⟩
        exact ⟨hleft, fun hall => hall.1 ⟨hw, tab, hin, hover⟩⟩
      · obtain ⟨hno, hm⟩ := tab_away hf (List.suffix_cons e run) hd hgone.absent
        exact .inr (.inl ⟨hno, hm.trans hgone.memory⟩)
      · obtain ⟨hno, hm⟩ := tab_away hf (List.suffix_cons e run) hd hleft.absent
        exact .inr (.inr ⟨⟨hno, hm.trans hleft.memory⟩, fun hall => hover hall.2⟩)

/-- a tab that was overlooked leaves its memory for good -/
theorem memory_of_overlooked (hf : (fresh u).Throughout (fun t => t.session.Files) run)
    (h : e :: early <:+ run) (hover : (after u early).OverlooksTab e w) :
    ∃ tab, Belonged u run w tab ∧ ((after u run).session.memory? tab).isSome := by
  obtain ⟨hw, tab, ht, hk⟩ := hover
  have hf' := hf.of_suffix h
  have ho := (tended_after hf'.2).orderly
  obtain ⟨st, as, hg⟩ := (after u early).goes e hf'.1
  rw [hg.session] at hw
  have hleft := hg.moves.left ho hk ht hw
  rw [← hg.session] at hleft
  have hd := Nat.le_trans (ho.tab_le (Tabs.mem_tabIds_of_idsOf ht))
    (drawn_le hf' (List.suffix_cons e early)).2
  obtain ⟨_, hm⟩ := tab_away hf h hd hleft.absent
  refine ⟨tab, ⟨early, (List.suffix_cons e early).trans h, ht⟩, ?_⟩
  rw [hm]
  exact hleft.memory

/-- no tab of a worksheet was overlooked that is still there -/
theorem none_overlooked (h : ClosesOnce u w late early) :
    (fresh u).Throughout (fun t e => ¬ t.OverlooksTab e w) (closingRun w [] early) := by
  have hf := h.files.of_suffix (ClosesOnce.suffix w late early)
  refine ⟨?_, .of_forall fun before e hsuf hover => ?_⟩
  · rintro ⟨_, tab, _, x, hx, _⟩
    cases hx
  · obtain ⟨hw, tab, ht, _⟩ := hover
    have hf' := hf.of_suffix hsuf
    have ho := (tended_after hf'.2).orderly
    have hd := Nat.le_trans (ho.worksheetsDrawn w (ho.tabs.mem_worksheetIds_of_idsOf ht))
      (drawn_le hf' (List.suffix_cons e before)).1
    exact worksheet_away hf hsuf hd hw h.there

end

/-! ## thorough closings -/

/-- the operation with this number has succeeded -/
def Succeeds (t : Traffic) (task : Nat) : Prop :=
  ∃ x ∈ t.endings, x.task = task ∧ x.result.isOk = true

instance (t : Traffic) (task : Nat) : Decidable (t.Succeeds task) :=
  inferInstanceAs (Decidable (∃ x ∈ t.endings, _))

/-- the worksheet begins to be closed after `early` -/
structure Thorough (u : Setup) (w : WorksheetId) (late early : List Event) : Prop where
  succeeds : (after u (closingRun w late early)).Succeeds ((after u early).tasks + 1)
  tabs : (after u (closingRun w [] early)).Throughout (fun t e => ¬ t.OverlooksTab e w) late
  connection : (after u (closingRun w [] early)).Throughout (fun t e => ¬ t.ComesTooLate e w) late

section
variable {u : Setup} {late early : List Event} {w : WorksheetId} {task : Nat} {t : Traffic}

theorem Numbered.ending_eq (h : t.Numbered) {x y : Ending} (hx : x ∈ t.endings) (hy : y ∈ t.endings)
    (ht : x.task = y.task) : x = y :=
  List.inj_on_of_nodup_map (List.nodup_append.mp h.once).2.1 hx hy ht

/-- once the calls are in, the closing of a worksheet has succeeded if the worksheet has gone -/
theorem Stage.succeeds_iff (h : t.Stage w task) (hn : t.Numbered) (hend : t.pending = []) :
    t.Succeeds task ↔ w ∉ t.session.store.tabs.worksheetIds := by
  cases h with
  | underWay hp _ _ =>
    unfold closers at hp
    rw [hend] at hp
    cases hp
  | failed _ he hw =>
    refine ⟨?_, fun hno => absurd hw hno⟩
    rintro ⟨x, hx, ht, hok⟩
    cases hn.ending_eq hx he ht
    cases hok
  | done _ he hw => exact ⟨fun _ => hw, fun _ => ⟨_, he, rfl, rfl⟩⟩

theorem awaits_of_pending (h : t.pending = []) : t.awaits = [] := by
  unfold awaits
  rw [h]
  rfl

/-- **Nothing is left of a worksheet that is closed if and only if its closing was thorough**, once
every operation has ended. -/
theorem nothing_left_iff (h : ClosesOnce u w late early)
    (hr : ∀ c, .begin (.release c) ∉ closingRun w late early)
    (hend : (after u (closingRun w late early)).pending = []) :
    NothingLeft u (closingRun w late early) w ↔ Thorough u w late early := by
  have hstage := (stage_after h).succeeds_iff (numbered_after u _) hend
  have hcalls := awaits_of_pending hend
  have ht := h.tended
  rw [hcalls] at ht
  constructor
  · intro hnone
    refine ⟨hstage.mpr hnone.worksheet, .of_forall fun before e hsuf hover => ?_, ?_⟩
    · rw [steps_closingRun] at hover
      obtain ⟨tab, hb, hm⟩ := memory_of_overlooked h.files (ClosesOnce.suffix_of_suffix hsuf) hover
      rw [(hnone.belongings tab hb).memory] at hm
      cases hm
    · rcases connection_after h hr with ⟨hall, _⟩ | ⟨_, _, id, hl, _⟩
      · exact hall
      · exact absurd (Connections.mem_bindings hl) hnone.connection
  · intro hth
    have hw := hstage.mp hth.succeeds
    refine ⟨hw, ?_, ?_, ?_⟩
    · exact List.eq_nil_iff_forall_not_mem.mpr fun tab hmem =>
        hw (ht.orderly.tabs.mem_worksheetIds_of_idsOf hmem)
    · intro hb
      obtain ⟨⟨b, id⟩, hl, rfl⟩ := List.mem_map.mp hb
      rcases connection_after h hr with ⟨_, hsole⟩ | ⟨hsome, _⟩
      · have hmem := hsole (.inr hw) id hl
        rw [hcalls] at hmem
        cases hmem
      · exact hsome hth.connection
    · rintro tab ⟨before, hsuf, hmem⟩
      rcases tab_fate h.files hsuf hmem with hin | hgone | ⟨_, hover⟩
      · exact absurd (ht.orderly.tabs.mem_worksheetIds_of_idsOf hin) hw
      · exact hgone.rid ht
      · exact absurd (throughout_append.mpr ⟨none_overlooked h, hth.tabs⟩) hover

end

/-- a tab is added to a worksheet that is being closed, and deleted before it has its connection -/
theorem nothing_left_of_brief_tab :
    let u : Setup := ⟨100, 10, 0⟩
    let early : List Event :=
      [.answer 0, .answer 0, .begin (.openWorksheet "w" (.fresh "server" "user"))]
    let late : List Event :=
      [.answer 0, .answer 0, .answer 1, .answer 0, .begin (.deleteTab ⟨2⟩),
        .begin (.addTab ⟨1⟩ none)]
    ClosesOnce u ⟨1⟩ late early ∧ (∀ c, .begin (.release c) ∉ closingRun ⟨1⟩ late early) ∧
      (after u (closingRun ⟨1⟩ late early)).pending = [] ∧
      NothingLeft u (closingRun ⟨1⟩ late early) ⟨1⟩ := by
  intro u early late
  have hfiles : (fresh u).Throughout (fun t => t.session.Files) (closingRun ⟨1⟩ late early) := by
    decide +kernel
  have hthere : ⟨1⟩ ∈ (after u early).session.store.tabs.worksheetIds := by decide +kernel
  have halone : (after u early).closers ⟨1⟩ = [] := by decide +kernel
  have h : ClosesOnce u ⟨1⟩ late early := ⟨hthere, halone, by simp [late], hfiles⟩
  have hr : ∀ c, .begin (.release c) ∉ closingRun ⟨1⟩ late early := by
    simp [closingRun, late, early]
  have hend : (after u (closingRun ⟨1⟩ late early)).pending = [] := by decide +kernel
  have hthorough : Thorough u ⟨1⟩ late early :=
    ⟨by decide +kernel, by decide +kernel, by decide +kernel⟩
  exact ⟨h, hr, hend, (nothing_left_iff h hr hend).mpr hthorough⟩

/-- a tab is added to a worksheet that is being closed: the worksheet goes with it, but its memory
and its connection are left -/
theorem tab_left_behind :
    let u : Setup := ⟨100, 10, 0⟩
    let early : List Event :=
      [.answer 0, .answer 0, .begin (.openWorksheet "w" (.fresh "server" "user"))]
    let late : List Event := [.answer 0, .answer 0, .answer 1, .begin (.addTab ⟨1⟩ none)]
    (after u (closingRun ⟨1⟩ late early)).Succeeds 2 ∧
      (after u (closingRun ⟨1⟩ late early)).pending = [] ∧
      Belonged u (closingRun ⟨1⟩ late early) ⟨1⟩ ⟨2⟩ ∧
      ((after u (closingRun ⟨1⟩ late early)).session.memory? ⟨2⟩).isSome ∧
      .tab ⟨2⟩ ∈ (after u (closingRun ⟨1⟩ late early)).session.store.connections.bindings ∧
      ¬ NothingLeft u (closingRun ⟨1⟩ late early) ⟨1⟩ := by
  intro u early late
  have hsucceeds : (after u (closingRun ⟨1⟩ late early)).Succeeds 2 := by decide +kernel
  have hend : (after u (closingRun ⟨1⟩ late early)).pending = [] := by decide +kernel
  have hadded : [.begin (.addTab ⟨1⟩ none)] <:+ late := List.suffix_append [_, _, _] _
  have hmem : ⟨2⟩ ∈ Tabs.idsOf
      (after u (closingRun ⟨1⟩ [.begin (.addTab ⟨1⟩ none)] early)).session.store.tabs ⟨1⟩ := by
    decide +kernel
  have hb : Belonged u (closingRun ⟨1⟩ late early) ⟨1⟩ ⟨2⟩ :=
    ⟨_, ClosesOnce.suffix_of_suffix hadded, hmem⟩
  have hm : ((after u (closingRun ⟨1⟩ late early)).session.memory? ⟨2⟩).isSome := by decide +kernel
  have hc : .tab ⟨2⟩ ∈ Connections.bindings
      (after u (closingRun ⟨1⟩ late early)).session.store.connections := by decide +kernel
  exact ⟨hsucceeds, hend, hb, hm, hc, fun hnone => (hnone.belongings ⟨2⟩ hb).connection hc⟩

end Traffic

end QueryDesk
