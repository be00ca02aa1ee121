/-!
# Tables

A table holds at most one value under a key.

* `get? k`        the value under `k`;
* `insert k a`    `a` under `k`, in the place of the value that was there;
* `erase k`       nothing under `k`;
* `modify k f`    the value under `k` changed by `f`, if there is one.

Each operation changes what stands under its own key and nothing else.
-/

namespace QueryDesk

structure Table (κ α : Type) where
  entries : List (κ × α)

namespace Table

variable {κ α : Type} [DecidableEq κ]

def empty : Table κ α := ⟨[]⟩

/-- the first value under a key -/
def find (k : κ) : List (κ × α) → Option α
  | [] => none
  | (l, a) :: rest => if l = k then some a else find k rest

def get? (t : Table κ α) (k : κ) : Option α := find k t.entries

def contains (t : Table κ α) (k : κ) : Bool := (t.get? k).isSome

def erase (t : Table κ α) (k : κ) : Table κ α := ⟨t.entries.filter (·.1 ≠ k)⟩

def insert (t : Table κ α) (k : κ) (a : α) : Table κ α := ⟨(k, a) :: (t.erase k).entries⟩

def modify (t : Table κ α) (k : κ) (f : α → α) : Table κ α :=
  ⟨t.entries.map fun e => if e.1 = k then (e.1, f e.2) else e⟩

/-! ## what stands under a key -/

@[simp] theorem get?_empty (k : κ) : (empty : Table κ α).get? k = none := rfl

theorem get?_erase (t : Table κ α) (k l : κ) :
    (t.erase k).get? l = if l = k then none else t.get? l := by
  obtain ⟨es⟩ := t
  simp only [erase, get?]
  induction es with
  | nil => simp [find]
  | cons e es ih =>
    by_cases hk : e.1 = k
    · rw [List.filter_cons_of_neg (by simp [hk]), ih]
      by_cases hl : l = k
      · simp [hl]
      · have : ¬ e.1 = l := fun h => hl (h.symm.trans hk)
        simp [hl, find, this]
    · rw [List.filter_cons_of_pos (by simp [hk])]
      by_cases hl : e.1 = l
      · have : ¬ l = k := fun h => hk (hl.trans h)
        simp [find, hl, this]
      · simpa [find, hl] using ih

theorem get?_insert (t : Table κ α) (k l : κ) (a : α) :
    (t.insert k a).get? l = if l = k then some a else t.get? l := by
  have h := get?_erase t k l
  by_cases hl : k = l
  · simp [insert, get?, find, hl]
  · have : ¬ l = k := fun e => hl e.symm
    simpa [insert, get?, find, hl, this] using h

theorem get?_modify (t : Table κ α) (k l : κ) (f : α → α) :
    (t.modify k f).get? l = if l = k then (t.get? k).map f else t.get? l := by
  obtain ⟨es⟩ := t
  simp only [modify, get?]
  induction es with
  | nil => simp [find]
  | cons e es ih =>
    by_cases hk : e.1 = k
    · by_cases hl : k = l
      · subst hl; simp [find, hk]
      · have h1 : ¬ l = k := fun h => hl h.symm
        have h2 : ¬ e.1 = l := fun h => hl (hk.symm.trans h)
        rw [if_neg h1] at ih
        simp only [List.map_cons, if_pos hk, if_neg h1, find, if_neg h2]
        exact ih
    · simp only [List.map_cons, if_neg hk, find]
      rw [ih]
      by_cases hl : l = k
      · subst hl; simp [hk]
      · simp [hl]

theorem contains_modify (t : Table κ α) (k l : κ) (f : α → α) :
    (t.modify k f).contains l = t.contains l := by
  unfold contains
  rw [get?_modify]
  split
  · next h => subst h; simp
  · rfl

end Table

end QueryDesk
