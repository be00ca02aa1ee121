import QueryDesk.Proofs.Traffic

/-!
# Operations and their numbers

Operations are numbered in the order in which they are begun, and each one ends at most once.

* `Traffic.numbers`     the numbers of the operations that are under way or have ended;
* `Traffic.Numbered`    all of them different, and drawn already (`numbered_after`);
* `begun u task run`    the operation with this number, and the session in which it was begun.
-/

namespace QueryDesk.Traffic

def numbers (t : Traffic) : List Nat := t.pending.map (·.task) ++ t.endings.map (·.task)

theorem numbers_goOn (t : Traffic) (task : Nat) (st : Session.Step) :
    (t.goOn task st).numbers.Perm (task :: t.numbers) := by
  obtain ⟨s, p⟩ := st
  unfold numbers
  cases p with
  | ends r =>
    simp only [goOn, List.map_append, ← List.append_assoc]
    exact List.perm_append_comm
  | waits a =>
    simp only [goOn, List.map_append]
    exact List.perm_append_comm.append_right _

theorem numbers_eraseIdx {t : Traffic} {i : Nat} {p : Pending} (h : t.pending[i]? = some p) :
    (p.task :: (t.pending.eraseIdx i).map (·.task) ++ t.endings.map (·.task)).Perm t.numbers := by
  obtain ⟨hi, rfl⟩ := List.getElem?_eq_some_iff.mp h
  exact ((List.getElem_cons_eraseIdx_perm hi).map (·.task)).append_right _

theorem tasks_goOn (t : Traffic) (task : Nat) (st : Session.Step) :
    (t.goOn task st).tasks = t.tasks := by
  obtain ⟨s, p⟩ := st
  cases p <;> rfl

/-- an event takes a new number, or none -/
theorem numbers_step (t : Traffic) (e : Event) :
    ((t.step e).numbers.Perm t.numbers ∧ (t.step e).tasks = t.tasks) ∨
      ((t.step e).numbers.Perm ((t.tasks + 1) :: t.numbers) ∧ (t.step e).tasks = t.tasks + 1) := by
  have idle : t.step e = t → (t.step e).numbers.Perm t.numbers ∧ (t.step e).tasks = t.tasks := by
    intro h
    rw [h]
    exact ⟨.refl _, rfl⟩
  cases e with
  | begin o => exact .inr ⟨numbers_goOn _ _ _, tasks_goOn _ _ _⟩
  | answer i =>
    refine .inl ?_
    cases hp : t.pending[i]? with
    | none => exact idle (by simp only [step, hp])
    | some p =>
      simp only [step, hp]
      exact ⟨(numbers_goOn _ _ _).trans (numbers_eraseIdx hp), tasks_goOn _ _ _⟩
  | giveUp i =>
    refine .inl ?_
    cases hp : t.pending[i]? with
    | none => exact idle (by simp only [step, hp])
    | some p =>
      cases hup : t.isGivenUp p.await with
      | false => exact idle (by simp [step, hp, hup])
      | true =>
        simp only [step, hp, hup, if_true]
        exact ⟨(numbers_goOn _ _ _).trans (numbers_eraseIdx hp), tasks_goOn _ _ _⟩
  | deed d => exact .inl ⟨.refl _, rfl⟩
  | cue c => exact .inl ⟨.refl _, rfl⟩
  | pass nanos => exact .inl ⟨.refl _, rfl⟩

/-- no number is used twice, and all were drawn -/
structure Numbered (t : Traffic) : Prop where
  once : t.numbers.Nodup
  drawn : ∀ n ∈ t.numbers, n ≤ t.tasks

theorem Numbered.step {t : Traffic} (h : t.Numbered) (e : Event) : (t.step e).Numbered := by
  rcases t.numbers_step e with ⟨hn, ht⟩ | ⟨hn, ht⟩
  · refine ⟨hn.nodup_iff.mpr h.once, fun n hmem => ?_⟩
    rw [ht]
    exact h.drawn n (hn.mem_iff.mp hmem)
  · refine ⟨hn.nodup_iff.mpr (List.nodup_cons.mpr ⟨fun hmem => ?_, h.once⟩), fun n hmem => ?_⟩
    · exact Nat.not_succ_le_self _ (h.drawn _ hmem)
    · rw [ht]
      rcases List.mem_cons.mp (hn.mem_iff.mp hmem) with rfl | hmem
      · exact Nat.le_refl _
      · exact Nat.le_succ_of_le (h.drawn n hmem)

theorem numbered_after (u : Setup) (run : List Event) : (after u run).Numbered := by
  induction run with
  | nil => exact ⟨List.nodup_nil, fun n hn => by cases hn⟩
  | cons e run ih => exact ih.step e

section
variable {t : Traffic} {p : Pending} {x : Ending}

theorem Numbered.pending_le (h : t.Numbered) (hp : p ∈ t.pending) : p.task ≤ t.tasks :=
  h.drawn _ (List.mem_append_left _ (List.mem_map_of_mem hp))

theorem Numbered.ending_le (h : t.Numbered) (hx : x ∈ t.endings) : x.task ≤ t.tasks :=
  h.drawn _ (List.mem_append_right _ (List.mem_map_of_mem hx))

theorem Numbered.ne (h : t.Numbered) (hp : p ∈ t.pending) (hx : x ∈ t.endings) :
    p.task ≠ x.task :=
  (List.nodup_append.mp h.once).2.2 _ (List.mem_map_of_mem hp) _ (List.mem_map_of_mem hx)

end

/-! ## how an operation was begun -/

def begun (u : Setup) (task : Nat) : List Event → Option (Session × Operation)
  | .begin o :: run =>
    if task = (after u run).tasks + 1 then some ((after u run).session, o) else begun u task run
  | _ :: run => begun u task run
  | [] => none

/-- a number that was drawn belongs to its operation for good -/
theorem begun_cons {u : Setup} {run : List Event} {task : Nat} (h : task ≤ (after u run).tasks)
    (e : Event) : begun u task (e :: run) = begun u task run := by
  cases e with
  | begin o =>
    have hne : task ≠ (after u run).tasks + 1 := Nat.ne_of_lt (Nat.lt_succ_of_le h)
    exact if_neg hne
  | _ => rfl

theorem tasks_le_step (t : Traffic) (e : Event) : t.tasks ≤ (t.step e).tasks := by
  rcases t.numbers_step e with ⟨_, ht⟩ | ⟨_, ht⟩
  · exact Nat.le_of_eq ht.symm
  · exact ht ▸ Nat.le_succ _

theorem tasks_le {u : Setup} {early run : List Event} (h : early <:+ run) :
    (after u early).tasks ≤ (after u run).tasks := by
  obtain ⟨late, rfl⟩ := h
  induction late with
  | nil => exact Nat.le_refl _
  | cons e late ih => exact Nat.le_trans ih (tasks_le_step _ e)

theorem tasks_begin (t : Traffic) (o : Operation) : (t.step (.begin o)).tasks = t.tasks + 1 :=
  tasks_goOn _ _ _

theorem begun_of_suffix {u : Setup} {early run : List Event} {o : Operation}
    (h : .begin o :: early <:+ run) :
    begun u ((after u early).tasks + 1) run = some ((after u early).session, o) := by
  induction run with
  | nil => cases List.suffix_nil.mp h
  | cons e run ih =>
    rcases List.suffix_cons_iff.mp h with he | hsuf
    · cases he
      exact if_pos rfl
    · have hle := tasks_le (u := u) hsuf
      rw [after_cons, tasks_begin] at hle
      rw [begun_cons hle]
      exact ih hsuf

theorem suffix_of_begun {u : Setup} {run : List Event} {task : Nat} {s : Session} {o : Operation}
    (h : begun u task run = some (s, o)) : ∃ early, .begin o :: early <:+ run ∧
      s = (after u early).session ∧ task = (after u early).tasks + 1 := by
  induction run with
  | nil => cases h
  | cons e run ih =>
    have further : begun u task run = some (s, o) → ∃ early, .begin o :: early <:+ e :: run ∧
        s = (after u early).session ∧ task = (after u early).tasks + 1 := by
      intro h'
      obtain ⟨early, hsuf, hs⟩ := ih h'
      exact ⟨early, hsuf.trans (List.suffix_cons e run), hs⟩
    cases e with
    | begin o' =>
      rw [begun] at h
      split at h
      · next ht =>
        cases h
        exact ⟨run, List.suffix_refl _, rfl, ht⟩
      · exact further h
    | _ => exact further h

end QueryDesk.Traffic
