import QueryDesk.Proofs.Numbering
import QueryDesk.Proofs.Tending

/-!
# How far a worksheet is closed

* `Traffic.closers t w`      the operations under way that are closing the worksheet;
* `Traffic.Stage t w task`   the operation with this number is the only one of them; or it has
  ended, with an error if the worksheet is still there, and without one if it is not;
* `Traffic.ClosesOnce`       from a certain event of a run on one operation closes a worksheet.

**`Traffic.stage_after`**: from that event on the operation is at one of these stages.
-/

namespace QueryDesk.Traffic

def closers (t : Traffic) (w : WorksheetId) : List Pending :=
  t.pending.filter fun p => (Cause.resumes p.await).closes? = some w

inductive Stage (t : Traffic) (w : WorksheetId) (task : Nat) : Prop where
  | underWay {p : Pending} (hp : t.closers w = [p]) (ht : p.task = task)
    (hw : w ∈ t.session.store.tabs.worksheetIds)
  | failed {e : ConsoleError} (hp : t.closers w = []) (he : ⟨task, .error e⟩ ∈ t.endings)
    (hw : w ∈ t.session.store.tabs.worksheetIds)
  | done (hp : t.closers w = []) (he : ⟨task, .ok .done⟩ ∈ t.endings)
    (hw : w ∉ t.session.store.tabs.worksheetIds)

section
variable {t t' : Traffic} {w : WorksheetId} {task : Nat} {e : Event} {p q : Pending}

theorem mem_closers :
    p ∈ t.closers w ↔ p ∈ t.pending ∧ (Cause.resumes p.await).closes? = some w := by
  simp [closers]

theorem closers_goOn {st : Session.Step}
    (h : ∀ a ∈ st.2.awaits, (Cause.resumes a).closes? ≠ some w) :
    (t.goOn task st).closers w = t.closers w := by
  obtain ⟨s, p⟩ := st
  cases p with
  | ends r => rfl
  | waits a =>
    have ha := h a (List.mem_singleton_self a)
    simp [goOn, closers, ha]

/-- an operation that is not closing the worksheet leaves those alone that are -/
theorem closers_step (hk : (t.cause e).closes? ≠ some w) :
    ((t.step e).closers w).Perm (t.closers w) := by
  have hnone : ∀ {k l? st}, Moves t.session k l? st → k.closes? ≠ some w →
      ∀ a ∈ st.2.awaits, (Cause.resumes a).closes? ≠ some w := by
    intro k l? st hm hne a ha hc
    obtain ⟨⟨v, tabs⟩, hclosing, rfl⟩ := Option.map_eq_some_iff.mp hc
    exact hne (hm.closes_of_mem ha hclosing)
  cases t.happens e with
  | begin o =>
    exact .of_eq (closers_goOn (hnone (t.session.moves_begin o) hk))
  | hears hh =>
    obtain ⟨i, server, hi, hstep⟩ := hh.step_eq
    rw [hh.cause] at hk
    rw [hstep, closers_goOn (hnone (t.session.moves_resume _ _) hk)]
    obtain ⟨hlt, rfl⟩ := List.getElem?_eq_some_iff.mp hi
    have hperm := (List.getElem_cons_eraseIdx_perm hlt).filter fun p =>
      (Cause.resumes p.await).closes? = some w
    rwa [List.filter_cons_of_neg (by simpa using hk)] at hperm
  | deed d => exact .refl _
  | idle clock _ hp _ _ _ =>
    unfold closers
    rw [hp]

theorem endings_step (t : Traffic) (e : Event) : t.endings ⊆ (t.step e).endings := by
  have hgo : ∀ (t : Traffic) task st, t.endings ⊆ (t.goOn task st).endings := by
    rintro t task ⟨s, p⟩
    cases p with
    | ends r => exact List.subset_append_left _ _
    | waits a => exact fun _ h => h
  cases t.happens e with
  | begin o => exact hgo { t with tasks := t.tasks + 1 } _ _
  | hears hh =>
    obtain ⟨i, server, _, hstep⟩ := hh.step_eq
    rw [hstep]
    exact hgo { t with server, pending := t.pending.eraseIdx i } _ _
  | deed d => exact fun _ h => h
  | idle _ _ _ he _ _ => exact he ▸ fun _ h => h

/-- the closing of a worksheet that nobody else is closing -/
theorem stage_goOn (hno : t.closers w = []) {st : Session.Step} (h : Closed w st) :
    (t.goOn task st).Stage w task := by
  cases h with
  | fails hw => exact .failed hno (List.mem_append_right _ (List.mem_singleton_self _)) hw
  | @waits s a tabs hw ha =>
    have hnew : (t.goOn task (s, .waits a)).closers w =
        t.closers w ++ [⟨task, a, (t.server.receive a.call).1⟩] := by
      simp [goOn, closers, Cause.closes?, ha]
    rw [hno] at hnew
    exact .underWay hnew rfl hw
  | done hw => exact .done hno (List.mem_append_right _ (List.mem_singleton_self _)) hw

/-- the closing of a worksheet goes on, unless it begins -/
theorem exists_hears_of_closes (hk : (t.cause e).closes? = some w)
    (hb : e ≠ .begin (.closeWorksheet w)) :
    ∃ p reply, t.Hears e p reply ∧ (Cause.resumes p.await).closes? = some w := by
  cases hc : t.cause e with
  | begins o =>
    rw [hc] at hk
    cases o with
    | closeWorksheet v =>
      cases hk
      exact absurd (eq_begin_of_cause hc) hb
    | _ => cases hk
  | resumes a =>
    rw [hc] at hk
    obtain ⟨p, reply, hh, rfl⟩ := exists_hears hc
    exact ⟨p, reply, hh, hk⟩
  | otherwise =>
    rw [hc] at hk
    cases hk

theorem Stage.closers_eq (h : t.Stage w task) (hp : p ∈ t.closers w) :
    t.closers w = [p] ∧ p.task = task ∧ w ∈ t.session.store.tabs.worksheetIds := by
  cases h with
  | underWay hq ht hw =>
    rw [hq] at hp
    cases List.mem_singleton.mp hp
    exact ⟨hq, ht, hw⟩
  | failed hno _ _ =>
    rw [hno] at hp
    cases hp
  | done hno _ _ =>
    rw [hno] at hp
    cases hp

theorem Stage.of_same (h : t.Stage w task) (hc : (t'.closers w).Perm (t.closers w))
    (he : t.endings ⊆ t'.endings)
    (hw : w ∈ t'.session.store.tabs.worksheetIds ↔ w ∈ t.session.store.tabs.worksheetIds) :
    t'.Stage w task := by
  cases h with
  | underWay hp ht hmem => exact .underWay (List.perm_singleton.mp (hp ▸ hc)) ht (hw.mpr hmem)
  | failed hp hend hmem => exact .failed (List.perm_nil.mp (hp ▸ hc)) (he hend) (hw.mpr hmem)
  | done hp hend hno =>
    exact .done (List.perm_nil.mp (hp ▸ hc)) (he hend) fun hmem => hno (hw.mp hmem)

/-- **What an event makes of it.** -/
theorem Stage.step (h : t.Stage w task) (ho : Orderly t.session) (hf : t.session.Files e)
    (hd : w.number ≤ t.session.worksheetsDrawn) (hb : e ≠ .begin (.closeWorksheet w)) :
    (t.step e).Stage w task := by
  by_cases hk : (t.cause e).closes? = some w
  · obtain ⟨p, reply, hh, hkp⟩ := exists_hears_of_closes hk hb
    obtain ⟨hone, ht, hw⟩ := h.closers_eq (mem_closers.mpr ⟨hh.mem, hkp⟩)
    obtain ⟨i, server, hi, hstep⟩ := hh.step_eq
    obtain ⟨hlt, hget⟩ := List.getElem?_eq_some_iff.mp hi
    -- without it nobody is closing the worksheet
    have hperm := (List.getElem_cons_eraseIdx_perm hlt).filter fun p =>
      (Cause.resumes p.await).closes? = some w
    rw [hget, List.filter_cons_of_pos (by simpa using hkp)] at hperm
    have hnil := List.perm_nil.mp ((List.perm_cons p).mp (hperm.trans (.of_eq hone)))
    have hclosed := (t.session.moves_resume p.await reply).closed ho hkp hw
    rw [hstep, ← ht]
    exact stage_goOn (t := { t with server, pending := t.pending.eraseIdx i }) hnil hclosed
  · obtain ⟨st, as, hg⟩ := t.goes e hf
    refine h.of_same (closers_step hk) (endings_step t e) ?_
    rw [hg.session]
    exact ⟨hg.moves.churns.worksheet_old ho hd, hg.moves.churns.worksheet ho hk⟩

theorem stage_begin (ho : Orderly t.session) (hno : t.closers w = [])
    (hw : w ∈ t.session.store.tabs.worksheetIds) :
    (t.step (.begin (.closeWorksheet w))).Stage w (t.tasks + 1) :=
  stage_goOn (t := { t with tasks := t.tasks + 1 }) hno
    ((t.session.moves_begin (.closeWorksheet w)).closed ho rfl hw)

end

/-! ## runs -/

/-- a run in which the worksheet begins to be closed after `early` -/
def closingRun (w : WorksheetId) (late early : List Event) : List Event :=
  late ++ .begin (.closeWorksheet w) :: early

theorem steps_closingRun (u : Setup) (w : WorksheetId) (late early : List Event) :
    (after u (closingRun w [] early)).steps late = after u (closingRun w late early) :=
  (steps_append ..).symm

structure ClosesOnce (u : Setup) (w : WorksheetId) (late early : List Event) : Prop where
  there : w ∈ (after u early).session.store.tabs.worksheetIds
  /-- no other operation is closing it -/
  alone : (after u early).closers w = []
  /-- nor does one begin to -/
  once : .begin (.closeWorksheet w) ∉ late
  files : (fresh u).Throughout (fun t => t.session.Files) (closingRun w late early)

variable {u : Setup} {early late : List Event} {w : WorksheetId} {e : Event}

namespace ClosesOnce

theorem of_cons (h : ClosesOnce u w (e :: late) early) : ClosesOnce u w late early :=
  { h with
    once := fun hmem => h.once (List.mem_cons_of_mem e hmem)
    files := h.files.2 }

theorem ne (h : ClosesOnce u w (e :: late) early) : e ≠ .begin (.closeWorksheet w) := by
  rintro rfl
  exact h.once List.mem_cons_self

theorem suffix (w : WorksheetId) (late early : List Event) : early <:+ closingRun w late early :=
  (List.suffix_cons _ early).trans (List.suffix_append late _)

theorem suffix_of_suffix {late' : List Event} (h : late' <:+ late) :
    closingRun w late' early <:+ closingRun w late early := by
  obtain ⟨front, rfl⟩ := h
  exact ⟨front, by simp [closingRun]⟩

theorem tended (h : ClosesOnce u w late early) :
    Tended (after u (closingRun w late early)).session (after u (closingRun w late early)).awaits :=
  tended_after h.files

theorem tended_early (h : ClosesOnce u w late early) :
    Tended (after u early).session (after u early).awaits :=
  tended_after (h.files.of_suffix (suffix w late early))

theorem drawn (h : ClosesOnce u w late early) :
    w.number ≤ (after u (closingRun w late early)).session.worksheetsDrawn :=
  Nat.le_trans (h.tended_early.orderly.worksheetsDrawn w h.there)
    (drawn_le h.files (suffix w late early)).1

end ClosesOnce

/-- **From its beginning on the closing is at one of the stages.** -/
theorem stage_after (h : ClosesOnce u w late early) :
    (after u (closingRun w late early)).Stage w ((after u early).tasks + 1) := by
  induction late with
  | nil => exact stage_begin h.tended_early.orderly h.alone h.there
  | cons e late ih =>
    have h' := h.of_cons
    exact (ih h').step h'.tended.orderly h.files.1 h'.drawn h.ne

end QueryDesk.Traffic
