import Mathlib.Data.List.TakeDrop

/-!
# Texts in parts

* `span_append`             a run that ends in front of something else;
* `Text.mem_intercalate`, `Text.mem_of_mem_splitOn`   what stands in pieces that were joined, and in
  the pieces of a text;
* `mapM_map_eq_some`        parts that are read back one by one;
* `exists_of_bind_eq_ok`    a reader that goes on after another one.
-/

namespace QueryDesk

/-! ## runs -/

theorem span_append {α : Type} {p : α → Bool} {run : List α} (h : ∀ a ∈ run, p a = true)
    {rest : List α} (hrest : ∀ a ∈ rest.head?, p a = false) :
    (run ++ rest).span p = (run, rest) := by
  rw [List.span_eq_takeWhile_dropWhile, List.takeWhile_append_of_pos h,
    List.dropWhile_append_of_pos h]
  cases rest with
  | nil => rw [List.takeWhile_nil, List.dropWhile_nil, List.append_nil]
  | cons a rest =>
    have ha : ¬p a = true := by rw [hrest a rfl]; exact Bool.false_ne_true
    rw [List.takeWhile_cons_of_neg ha, List.dropWhile_cons_of_neg ha, List.append_nil]

/-! ## pieces -/

namespace Text

section
variable {c d : Char} {cs piece : List Char} {pieces : List (List Char)}

theorem intercalate_cons_cons (c : Char) (p q : List Char) (pieces : List (List Char)) :
    [c].intercalate (p :: q :: pieces) = p ++ c :: [c].intercalate (q :: pieces) := by
  rw [List.intercalate_cons_cons, List.append_assoc, List.singleton_append]

theorem mem_intercalate (h : d ∈ [c].intercalate pieces) : d = c ∨ ∃ p ∈ pieces, d ∈ p := by
  induction pieces with
  | nil => cases h
  | cons p pieces ih =>
    cases pieces with
    | nil =>
      rw [List.intercalate_singleton] at h
      exact .inr ⟨p, List.mem_cons_self, h⟩
    | cons q pieces =>
      rw [intercalate_cons_cons, List.mem_append, List.mem_cons] at h
      rcases h with h | h | h
      · exact .inr ⟨p, List.mem_cons_self, h⟩
      · exact .inl h
      · exact (ih h).imp_right fun ⟨r, hr, hd⟩ => ⟨r, List.mem_cons_of_mem _ hr, hd⟩

theorem mem_intercalate_of_mem (h : piece ∈ pieces) (hd : d ∈ piece) :
    d ∈ [c].intercalate pieces := by
  induction pieces with
  | nil => cases h
  | cons p pieces ih =>
    cases pieces with
    | nil => rwa [List.intercalate_singleton, ← List.mem_singleton.mp h]
    | cons q pieces =>
      rw [intercalate_cons_cons, List.mem_append, List.mem_cons]
      rcases List.mem_cons.mp h with rfl | h
      · exact .inl hd
      · exact .inr (.inr (ih h))

theorem mem_of_mem_splitOn (h : piece ∈ cs.splitOn c) (hd : d ∈ piece) : d ∈ cs := by
  have hmem : d ∈ [c].intercalate (cs.splitOn c) := mem_intercalate_of_mem h hd
  rwa [List.intercalate_splitOn] at hmem

/-- a character more belongs to the first piece, unless it parts the pieces -/
theorem splitOn_cons (c d : Char) (cs : List Char) : ∃ p ps, cs.splitOn c = p :: ps ∧
    (d :: cs).splitOn c = if d = c then [] :: p :: ps else (d :: p) :: ps := by
  obtain ⟨p, ps, hp⟩ := List.exists_cons_of_ne_nil (List.splitOn_ne_nil c cs)
  refine ⟨p, ps, hp, ?_⟩
  rw [List.splitOn_cons_eq_if_modifyHead, hp]
  simp only [beq_iff_eq, List.modifyHead_cons]

theorem not_mem_of_mem_splitOn (h : piece ∈ cs.splitOn c) : c ∉ piece := by
  induction cs generalizing piece with
  | nil =>
    rw [List.mem_singleton.mp h]
    exact List.not_mem_nil
  | cons d ds ih =>
    obtain ⟨p, ps, hds, hcons⟩ := splitOn_cons c d ds
    rw [hds] at ih
    rw [hcons] at h
    split at h
    · rcases List.mem_cons.mp h with rfl | h
      · exact List.not_mem_nil
      · exact ih h
    · next hd =>
      rcases List.mem_cons.mp h with rfl | h
      · exact List.not_mem_cons_of_ne_of_not_mem (Ne.symm hd) (ih List.mem_cons_self)
      · exact ih (List.mem_cons_of_mem _ h)

theorem splitOn_map {f : Char → Char} (h : ∀ d ∈ cs, f d = c ↔ d = c) :
    (cs.map f).splitOn c = (cs.splitOn c).map (List.map f) := by
  induction cs with
  | nil => rfl
  | cons d ds ih =>
    obtain ⟨hd, hds⟩ := List.forall_mem_cons.mp h
    rw [List.map_cons, List.splitOn_cons_eq_if_modifyHead, List.splitOn_cons_eq_if_modifyHead,
      ih hds]
    simp only [beq_iff_eq, hd]
    split
    · rfl
    · cases ds.splitOn c <;> rfl

end

end Text

/-! ## readers -/

section
variable {α β : Type}

theorem mapM_eq_some_map {l : List α} {f : α → Option β} {g : α → β}
    (h : ∀ a ∈ l, f a = some (g a)) : l.mapM f = some (l.map g) := by
  induction l with
  | nil => rfl
  | cons a l ih =>
    obtain ⟨ha, hl⟩ := List.forall_mem_cons.mp h
    rw [List.mapM_cons, ha, ih hl]
    rfl

theorem mapM_map_eq_some {l : List β} {f : α → Option β} {g : β → α}
    (h : ∀ b ∈ l, f (g b) = some b) : (l.map g).mapM f = some l := by
  rw [List.mapM_map]
  exact (mapM_eq_some_map h).trans (congrArg some (List.map_id l))

theorem exists_mem_of_mapM_eq_some {f : α → Option β} {l : List α} {bs : List β}
    (h : l.mapM f = some bs) {b : β} (hb : b ∈ bs) : ∃ a ∈ l, f a = some b := by
  induction l generalizing bs with
  | nil =>
    cases h
    cases hb
  | cons a l ih =>
    rw [List.mapM_cons] at h
    obtain ⟨b', hb', h⟩ := Option.bind_eq_some_iff.mp h
    obtain ⟨bs', hbs, h⟩ := Option.bind_eq_some_iff.mp h
    cases h
    rcases List.mem_cons.mp hb with rfl | hb
    · exact ⟨a, List.mem_cons_self, hb'⟩
    · obtain ⟨a', ha', hf⟩ := ih hbs hb
      exact ⟨a', List.mem_cons_of_mem _ ha', hf⟩

theorem forall_of_mapM_eq_some {f : α → Option β} {p : β → Prop}
    (hf : ∀ a b, f a = some b → p b) {l : List α} {bs : List β} (h : l.mapM f = some bs) :
    ∀ b ∈ bs, p b := by
  intro b hb
  obtain ⟨a, -, ha⟩ := exists_mem_of_mapM_eq_some h hb
  exact hf a b ha

theorem length_of_mapM_eq_some {f : α → Option β} {l : List α} {bs : List β}
    (h : l.mapM f = some bs) : bs.length = l.length := by
  induction l generalizing bs with
  | nil =>
    cases h
    rfl
  | cons a l ih =>
    rw [List.mapM_cons] at h
    obtain ⟨b, hb, h⟩ := Option.bind_eq_some_iff.mp h
    obtain ⟨bs', hbs, h⟩ := Option.bind_eq_some_iff.mp h
    cases h
    rw [List.length_cons, List.length_cons, ih hbs]

end

theorem exists_of_bind_eq_ok {ε α β : Type} {x : Except ε α} {f : α → Except ε β} {b : β}
    (h : x >>= f = .ok b) : ∃ a, x = .ok a ∧ f a = .ok b := by
  cases x with
  | error e => cases h
  | ok a => exact ⟨a, rfl, h⟩

end QueryDesk
