import QueryDesk.Json.Source

/-!
# Numerals as they are written

* `Source.reading`      what is read from a state on;
* `Source.Breaks`       no number goes on with what follows;
* `Numeral.chars`       the text of a numeral;
* `Numeral.Proper`      digits where digits belong, and no leading zero.

The parts of a numeral are read one after the other, each from any stack of open brackets.
**`reading_numeral`**: a proper numeral is delivered where its text ends.
-/

namespace QueryDesk.Json

/-! ## reading from a state on -/

namespace Source

def reading (s : State) (cs : List Char) : Option Source := cs.foldlM step s >>= finish

theorem readChars_eq (cs : List Char) : readChars cs = reading start cs := rfl

theorem reading_nil (s : State) : reading s [] = finish s := rfl

theorem reading_of_step {s s' : State} {c : Char} (h : step s c = some s') (cs : List Char) :
    reading s (c :: cs) = reading s' cs := by
  rw [reading, List.foldlM_cons, h]
  rfl

/-- two states that treat the next character alike -/
theorem reading_congr {s s' : State} {c : Char} (h : step s c = step s' c) (cs : List Char) :
    reading s (c :: cs) = reading s' (c :: cs) := by
  rw [reading, reading, List.foldlM_cons, List.foldlM_cons, h]

/-- the end of the text, or a character that stands behind a value -/
def Breaks : List Char → Prop
  | [] => True
  | c :: _ => c = ',' ∨ c = ']' ∨ c = '\x7d' ∨ isBlank c = true

theorem step_deliver (v : Source) (stack : List Frame) (c : Char) :
    step (deliver v stack) c = stepNext (deliver v stack) c := by
  cases stack with
  | nil => rfl
  | cons f stack => cases f <;> rfl

theorem finish_deliver (v : Source) (stack : List Frame) :
    finish (deliver v stack) = if stack = [] then some v else none := by
  cases stack with
  | nil => rfl
  | cons f stack => cases f <;> rfl

/-! ## digits -/

theorem ne_of_isDigit {c d : Char} (hc : Digits.isDigit c = true) (hd : Digits.isDigit d = false) :
    c ≠ d := by
  rintro rfl
  rw [hc] at hd
  cases hd

section
variable {n : Numeral} {part : Part} {stack : List Frame} {c : Char}

theorem step_number {part' : Part} {n' : Numeral} (h : part.extend? n c = some (part', n')) :
    step ⟨.number part n, stack⟩ c = some ⟨.number part' n', stack⟩ := by
  simp only [step, h]

/-- a run of digits is taken in one after the other -/
theorem reading_digits {take : Numeral → Char → Numeral}
    (h : ∀ n c, Digits.isDigit c = true → part.extend? n c = some (part, take n c))
    {ds : List Char} (hds : ∀ d ∈ ds, Digits.isDigit d = true) (n : Numeral) (stack : List Frame)
    (rest : List Char) : reading ⟨.number part n, stack⟩ (ds ++ rest) =
      reading ⟨.number part (ds.foldl take n), stack⟩ rest := by
  induction ds generalizing n with
  | nil => rfl
  | cons d ds ih =>
    obtain ⟨hd, hds⟩ := List.forall_mem_cons.mp hds
    rw [List.cons_append, reading_of_step (step_number (h n d hd)), ih hds, List.foldl_cons]

theorem foldl_whole (ds : List Char) (n : Numeral) :
    ds.foldl (fun n c => { n with whole := c :: n.whole }) n =
      { n with whole := ds.reverse ++ n.whole } := by
  induction ds generalizing n with
  | nil => rfl
  | cons d ds ih => rw [List.foldl_cons, ih, List.reverse_cons, List.append_assoc]; rfl

theorem foldl_fraction (ds : List Char) (n : Numeral) :
    ds.foldl (fun n c => { n with fraction := c :: n.fraction }) n =
      { n with fraction := ds.reverse ++ n.fraction } := by
  induction ds generalizing n with
  | nil => rfl
  | cons d ds ih => rw [List.foldl_cons, ih, List.reverse_cons, List.append_assoc]; rfl

theorem foldl_exponent (ds : List Char) (n : Numeral) (down : Bool) (es : List Char)
    (h : n.exponent = some (down, es)) :
    ds.foldl (fun n c => { n with exponent := n.exponent.map fun e => (e.1, c :: e.2) }) n =
      { n with exponent := some (down, ds.reverse ++ es) } := by
  induction ds generalizing n es with
  | nil => cases n; cases h; rfl
  | cons d ds ih =>
    rw [List.foldl_cons, ih _ (d :: es) (by rw [h]; rfl), List.reverse_cons, List.append_assoc]
    rfl

/-! ## the parts of a numeral -/

theorem reading_whole {ds : List Char} (hne : ds ≠ []) (hds : ∀ d ∈ ds, Digits.isDigit d = true)
    (hzero : ds.head? = some '0' → ds = ['0']) (n : Numeral) (stack : List Frame)
    (rest : List Char) : ∃ part, (part = .zero ∨ part = .whole) ∧
      reading ⟨.number .sign n, stack⟩ (ds ++ rest) =
        reading ⟨.number part { n with whole := ds.reverse }, stack⟩ rest := by
  obtain ⟨d, ds, rfl⟩ := List.exists_cons_of_ne_nil hne
  obtain ⟨hd, hds⟩ := List.forall_mem_cons.mp hds
  by_cases h0 : d = '0'
  · subst h0
    obtain rfl := (List.cons.inj (hzero rfl)).2
    exact ⟨.zero, .inl rfl, reading_of_step rfl rest⟩
  · refine ⟨.whole, .inr rfl, ?_⟩
    have hfirst : Part.sign.extend? n d = some (.whole, { n with whole := [d] }) := by
      simp only [Part.extend?, if_neg h0, hd, if_true]
    have hmore : ∀ (n : Numeral) c, Digits.isDigit c = true →
        Part.whole.extend? n c = some (.whole, { n with whole := c :: n.whole }) := by
      intro n c hc
      simp only [Part.extend?, hc, if_true]
    rw [List.cons_append, reading_of_step (step_number hfirst), reading_digits hmore hds,
      foldl_whole, List.reverse_cons]

theorem reading_fraction {ds : List Char} (hne : ds ≠ [])
    (hds : ∀ d ∈ ds, Digits.isDigit d = true) (hpart : part = .zero ∨ part = .whole)
    (rest : List Char) : reading ⟨.number part n, stack⟩ ('.' :: ds ++ rest) =
      reading ⟨.number .fraction { n with fraction := ds.reverse }, stack⟩ rest := by
  obtain ⟨d, ds, rfl⟩ := List.exists_cons_of_ne_nil hne
  obtain ⟨hd, hds⟩ := List.forall_mem_cons.mp hds
  have hpoint : part.extend? n '.' = some (.point, n) := by
    obtain rfl | rfl := hpart <;> rfl
  have hfirst : Part.point.extend? n d = some (.fraction, { n with fraction := [d] }) := by
    simp only [Part.extend?, hd, if_true]
  have hmore : ∀ (n : Numeral) c, Digits.isDigit c = true →
      Part.fraction.extend? n c = some (.fraction, { n with fraction := c :: n.fraction }) := by
    intro n c hc
    simp only [Part.extend?, hc, if_true]
  rw [List.cons_append, List.cons_append, reading_of_step (step_number hpoint),
    reading_of_step (step_number hfirst), reading_digits hmore hds, foldl_fraction,
    List.reverse_cons]

theorem reading_exponent {ds : List Char} (hne : ds ≠ [])
    (hds : ∀ d ∈ ds, Digits.isDigit d = true)
    (hpart : part = .zero ∨ part = .whole ∨ part = .fraction) (down : Bool) (rest : List Char) :
    reading ⟨.number part n, stack⟩ ('e' :: (if down then '-' else '+') :: ds ++ rest) =
      reading ⟨.number .exponent { n with exponent := some (down, ds.reverse) }, stack⟩ rest := by
  obtain ⟨d, ds, rfl⟩ := List.exists_cons_of_ne_nil hne
  obtain ⟨hd, hds⟩ := List.forall_mem_cons.mp hds
  have hmark : part.extend? n 'e' = some (.mark, n) := by
    obtain rfl | rfl | rfl := hpart <;> rfl
  have hsign : Part.mark.extend? n (if down then '-' else '+') =
      some (.exponentSign, { n with exponent := some (down, []) }) := by
    cases down <;> rfl
  have hfirst : Part.exponentSign.extend? { n with exponent := some (down, []) } d =
      some (.exponent, { n with exponent := some (down, [d]) }) := by
    simp only [Part.extend?, hd, if_true, Option.map_some]
  have hmore : ∀ (n : Numeral) c, Digits.isDigit c = true → Part.exponent.extend? n c =
      some (.exponent, { n with exponent := n.exponent.map fun e => (e.1, c :: e.2) }) := by
    intro n c hc
    simp only [Part.extend?, hc, if_true]
  rw [List.cons_append, List.cons_append, List.cons_append, reading_of_step (step_number hmark),
    reading_of_step (step_number hsign), reading_of_step (step_number hfirst),
    reading_digits hmore hds, foldl_exponent _ _ down [d] rfl, List.reverse_cons]

/-- where a number may end, it is delivered -/
theorem reading_settle (hend : part.isEnd = true) {rest : List Char} (hrest : Breaks rest) :
    reading ⟨.number part n, stack⟩ rest = reading (deliver (settle n) stack) rest := by
  cases rest with
  | nil =>
    rw [reading_nil, reading_nil, finish_deliver]
    cases stack with
    | nil => simp only [finish, hend, if_true]
    | cons f stack => rfl
  | cons c rest =>
    apply reading_congr
    have hnone : part.extend? n c = none := by
      have hdigit : Digits.isDigit c = false ∧ c ≠ '.' ∧ c ≠ 'e' ∧ c ≠ 'E' := by
        obtain rfl | rfl | rfl | hblank := hrest
        · decide
        · decide
        · decide
        · simp only [isBlank, Bool.or_eq_true, decide_eq_true_eq] at hblank
          obtain ((rfl | rfl) | rfl) | rfl := hblank <;> decide
      obtain ⟨hd, hpoint, he, hE⟩ := hdigit
      cases part with
      | sign | point | mark | exponentSign => exact Bool.noConfusion hend
      | zero | whole | fraction | exponent =>
        simp only [Part.extend?, hd, hpoint, he, hE, or_self, if_false, Bool.false_eq_true]
    rw [step_deliver]
    simp only [step, hnone, hend, if_true]

end

end Source

/-! ## whole numerals -/

namespace Numeral

def signChars (neg : Bool) : List Char := if neg then ['-'] else []

def fractionChars (ds : List Char) : List Char := if ds = [] then [] else '.' :: ds

def exponentChars : Option (Bool × List Char) → List Char
  | none => []
  | some (down, ds) => 'e' :: (if down then '-' else '+') :: ds

def chars (n : Numeral) : List Char :=
  signChars n.neg ++ n.whole ++ fractionChars n.fraction ++ exponentChars n.exponent

structure Proper (n : Numeral) : Prop where
  whole_ne : n.whole ≠ []
  whole : ∀ d ∈ n.whole, Digits.isDigit d = true
  no_leading_zero : n.whole.head? = some '0' → n.whole = ['0']
  fraction : ∀ d ∈ n.fraction, Digits.isDigit d = true
  exponent : ∀ e ∈ n.exponent, e.2 ≠ [] ∧ ∀ d ∈ e.2, Digits.isDigit d = true

end Numeral

namespace Source

/-- the first digit makes a number of what is to be read -/
theorem reading_value_digit {c : Char} (hc : Digits.isDigit c = true) (stack : List Frame)
    (cs : List Char) : reading ⟨.value, stack⟩ (c :: cs) =
      reading ⟨.number .sign ⟨false, [], [], none⟩, stack⟩ (c :: cs) := by
  apply reading_congr
  have hblank : isBlank c = false := by
    simp only [isBlank, Bool.or_eq_false_iff, decide_eq_false_iff_not]
    refine ⟨⟨⟨?_, ?_⟩, ?_⟩, ?_⟩ <;> exact ne_of_isDigit hc (by decide)
  have hsign : ∃ p, Part.sign.extend? ⟨false, [], [], none⟩ c = some p := by
    by_cases h0 : c = '0'
    · exact ⟨_, if_pos h0⟩
    · exact ⟨_, (if_neg h0).trans (if_pos hc)⟩
  obtain ⟨p, hp⟩ := hsign
  simp only [step, hblank, stepValue, hp, ne_of_isDigit hc (d := '"') (by decide),
    ne_of_isDigit hc (d := '[') (by decide), ne_of_isDigit hc (d := '\x7b') (by decide),
    ne_of_isDigit hc (d := 't') (by decide), ne_of_isDigit hc (d := 'f') (by decide),
    ne_of_isDigit hc (d := 'n') (by decide), ne_of_isDigit hc (d := '-') (by decide), if_false,
    Bool.false_eq_true, Option.map_some]

theorem reading_sign (neg : Bool) {ds : List Char} (hne : ds ≠ [])
    (hds : ∀ d ∈ ds, Digits.isDigit d = true) (stack : List Frame) (rest : List Char) :
    reading ⟨.value, stack⟩ (Numeral.signChars neg ++ (ds ++ rest)) =
      reading ⟨.number .sign ⟨neg, [], [], none⟩, stack⟩ (ds ++ rest) := by
  cases neg with
  | true => exact reading_of_step rfl _
  | false =>
    obtain ⟨d, ds, rfl⟩ := List.exists_cons_of_ne_nil hne
    exact reading_value_digit (hds d List.mem_cons_self) stack (ds ++ rest)

/-- **A numeral is delivered where its text ends.** -/
theorem reading_numeral {n : Numeral} (h : n.Proper) (stack : List Frame) {rest : List Char}
    (hrest : Breaks rest) :
    reading ⟨.value, stack⟩ (n.chars ++ rest) = reading (deliver (.number n) stack) rest := by
  obtain ⟨neg, whole, fraction, exponent⟩ := n
  rw [Numeral.chars, List.append_assoc, List.append_assoc, List.append_assoc,
    reading_sign neg h.whole_ne h.whole]
  obtain ⟨part, hpart, heq⟩ := reading_whole h.whole_ne h.whole h.no_leading_zero
    ⟨neg, [], [], none⟩ stack
    (Numeral.fractionChars fraction ++ (Numeral.exponentChars exponent ++ rest))
  rw [heq]
  clear heq
  -- behind the fraction, if there is one
  obtain ⟨part, hpart, heq⟩ : ∃ part', (part' = .zero ∨ part' = .whole ∨ part' = .fraction) ∧
      reading ⟨.number part ⟨neg, whole.reverse, [], none⟩, stack⟩
          (Numeral.fractionChars fraction ++ (Numeral.exponentChars exponent ++ rest)) =
        reading ⟨.number part' ⟨neg, whole.reverse, fraction.reverse, none⟩, stack⟩
          (Numeral.exponentChars exponent ++ rest) := by
    by_cases hf : fraction = []
    · subst hf
      exact ⟨part, hpart.imp_right .inl, rfl⟩
    · refine ⟨.fraction, .inr (.inr rfl), ?_⟩
      rw [Numeral.fractionChars, if_neg hf]
      exact reading_fraction hf h.fraction hpart _
  rw [heq]
  clear heq
  cases exponent with
  | none =>
    have hend : part.isEnd = true := by
      obtain rfl | rfl | rfl := hpart <;> rfl
    rw [Numeral.exponentChars, List.nil_append, reading_settle hend hrest]
    simp only [settle, List.reverse_reverse, Option.map_none]
  | some e =>
    obtain ⟨down, ds⟩ := e
    obtain ⟨hne, hds⟩ := h.exponent (down, ds) rfl
    rw [Numeral.exponentChars, reading_exponent hne hds hpart, reading_settle rfl hrest]
    simp only [settle, List.reverse_reverse, Option.map_some]

end Source

end QueryDesk.Json
