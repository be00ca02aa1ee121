import QueryDesk.Proofs.Calendar
import QueryDesk.Proofs.DecimalText
import QueryDesk.Time.Rfc3339

/-!
# A timestamp is read back

* `number?_append`   a run of digits that ends in front of something else;
* `year?_yearText`, `pair?_padded`, `fraction?_fractionText`   the parts of a timestamp;
* `ofParts?_chars`   the parts make up the instant.

**`Instant.ofText?_text`**: the text of an instant is read as that instant, leap seconds included.
-/

namespace QueryDesk

/-! ## padded digits -/

namespace Digits

theorem length_digits_le {n w : Nat} (hw : 0 < w) (h : n < 10 ^ w) : (digits n).length ≤ w := by
  induction n using digits.induct generalizing w with
  | case1 n hn =>
    rw [digits, if_pos hn]
    exact hw
  | case2 n hn ih =>
    obtain ⟨v, rfl⟩ := Nat.exists_eq_succ_of_ne_zero hw.ne'
    have hv : 0 < v := by
      rcases Nat.eq_zero_or_pos v with rfl | hv
      · exact absurd h hn
      · exact hv
    rw [digits, if_neg hn, List.length_append, List.length_singleton]
    refine Nat.succ_le_succ (ih hv ?_)
    rw [Nat.div_lt_iff_lt_mul (by omega), ← Nat.pow_succ]
    exact h

section
variable {w n : Nat}

theorem isDigit_of_mem_padded {c : Char} (h : c ∈ padded w n) : isDigit c = true :=
  (List.mem_append.mp h).elim isDigit_of_mem_zeros (isDigit_of_mem_digits n c)

theorem value_padded : value (padded w n) = n := by
  show value (Decimal.zeros (w - (digits n).length) ++ digits n) = n
  rw [value_append, value_zeros, value_digits, Nat.zero_mul, Nat.zero_add]

theorem length_padded (hw : 0 < w) (h : n < 10 ^ w) : (padded w n).length = w := by
  have := length_digits_le hw h
  rw [padded, List.length_append, List.length_replicate]
  omega

theorem exists_padded_eq_cons (w n : Nat) :
    ∃ c cs, padded w n = c :: cs ∧ isDigit c = true := by
  obtain ⟨c, cs, heq⟩ := List.exists_cons_of_ne_nil
    (List.append_ne_nil_of_right_ne_nil (List.replicate (w - (digits n).length) '0')
      (digits_ne_nil n))
  exact ⟨c, cs, heq, isDigit_of_mem_padded (heq ▸ List.mem_cons_self)⟩

end

end Digits

/-! ## blanks -/

namespace Text

theorem isBlank_of_isDigit {c : Char} (h : Digits.isDigit c = true) : isBlank c = false := by
  have hc := of_decide_eq_true h
  simp only [isBlank, Bool.or_eq_false_iff, Bool.and_eq_false_iff, decide_eq_false_iff_not,
    beq_eq_false_iff_ne]
  omega

theorem trimLeft_cons {c : Char} (h : isBlank c = false) (cs : List Char) :
    trimLeft (c :: cs) = c :: cs := by
  rw [trimLeft, List.dropWhile_cons, h]
  rfl

theorem trimLeft_padded (w n : Nat) (rest : List Char) :
    trimLeft (Digits.padded w n ++ rest) = Digits.padded w n ++ rest := by
  obtain ⟨c, cs, heq, hc⟩ := Digits.exists_padded_eq_cons w n
  rw [heq]
  exact trimLeft_cons (isBlank_of_isDigit hc) _

end Text

namespace Instant

open Digits (padded isDigit)

/-! ## the parts -/

theorem takeWhile_eq_nil {rest : List Char} (h : ∀ c ∈ rest.head?, isDigit c = false) :
    rest.takeWhile isDigit = [] := by
  cases rest with
  | nil => rfl
  | cons c rest => rw [List.takeWhile_cons, h c rfl]; rfl

theorem take_takeWhile_append {most : Nat} {ds rest : List Char} (hds : ∀ c ∈ ds, isDigit c = true)
    (hlen : ds.length ≤ most) (hrest : ds.length = most ∨ ∀ c ∈ rest.head?, isDigit c = false) :
    ((ds ++ rest).takeWhile isDigit).take most = ds := by
  rw [List.takeWhile_append_of_pos hds]
  rcases hrest with hmost | hrest
  · rw [← hmost, List.take_left]
  · rw [takeWhile_eq_nil hrest, List.append_nil, List.take_of_length_le hlen]

theorem number?_append {most : Nat} {ds rest : List Char} (hds : ∀ c ∈ ds, isDigit c = true)
    (hne : ds ≠ []) (hlen : ds.length ≤ most)
    (hrest : ds.length = most ∨ ∀ c ∈ rest.head?, isDigit c = false) :
    number? most (ds ++ rest) = some (Digits.value ds, rest) := by
  rw [number?, take_takeWhile_append hds hlen hrest, if_neg hne, List.drop_left]

theorem number?_padded {w n : Nat} (hw : 0 < w) (h : n < 10 ^ w) (rest : List Char) :
    number? w (padded w n ++ rest) = some (n, rest) := by
  have hlen := Digits.length_padded hw h
  rw [number?_append (fun _ => Digits.isDigit_of_mem_padded) _ hlen.le (.inl hlen),
    Digits.value_padded]
  intro hnil
  rw [hnil] at hlen
  exact hw.ne hlen

theorem pair?_padded {n : Nat} (h : n < 100) (rest : List Char) :
    pair? (padded 2 n ++ rest) = some (n, rest) := by
  rw [pair?, Text.trimLeft_padded]
  exact number?_padded (by omega) h rest

theorem mark?_cons {c : Char} (h : Text.isBlank c = false) (rest : List Char) :
    mark? c (c :: rest) = some rest := by
  rw [mark?, Text.trimLeft_cons h]
  exact if_pos rfl

/-- the digits of a year with a sign -/
theorem number?_year (n : Nat) (rest : List Char) :
    number? (padded 4 n ++ '-' :: rest).length (padded 4 n ++ '-' :: rest) =
      some (n, '-' :: rest) := by
  obtain ⟨c, cs, heq, -⟩ := Digits.exists_padded_eq_cons 4 n
  have hlen : (padded 4 n).length ≤ (padded 4 n ++ '-' :: rest).length := by
    rw [List.length_append]
    exact Nat.le_add_right ..
  have hdash : ∀ c ∈ ('-' :: rest).head?, isDigit c = false := by
    rintro c ⟨⟩
    rfl
  rw [number?_append (fun _ => Digits.isDigit_of_mem_padded) _ hlen (.inr hdash),
    Digits.value_padded]
  rw [heq]
  exact List.cons_ne_nil _ _

theorem year?_yearText (year : Int) (rest : List Char) :
    year? (yearText year ++ '-' :: rest) = some (year, '-' :: rest) := by
  unfold yearText
  split
  next hyear =>
    obtain ⟨c, cs, heq, hc⟩ := Digits.exists_padded_eq_cons 4 year.toNat
    have hnumber := number?_padded (w := 4) (n := year.toNat) (by omega) (by omega) ('-' :: rest)
    rw [heq] at hnumber ⊢
    unfold year?
    split
    next hdash =>
      cases hdash
      exact absurd hc (by decide)
    next hplus =>
      cases hplus
      exact absurd hc (by decide)
    next =>
      rw [hnumber]
      show some ((year.toNat : Int), _) = _
      rw [Int.toNat_of_nonneg hyear.1]
  next hyear =>
    split
    next hneg =>
      refine (congrArg (Option.map _) (number?_year year.natAbs rest)).trans ?_
      show some (-(year.natAbs : Int), _) = _
      congr 2
      omega
    next hpos =>
      refine (congrArg (Option.map _) (number?_year year.natAbs rest)).trans ?_
      show some ((year.natAbs : Int), _) = _
      congr 2
      omega

theorem trimLeft_yearText (year : Int) (rest : List Char) :
    Text.trimLeft (yearText year ++ rest) = yearText year ++ rest := by
  unfold yearText
  split
  next => exact Text.trimLeft_padded 4 _ rest
  next => split <;> exact Text.trimLeft_cons rfl _

/-- some places of a fraction -/
theorem fraction?_padded {w n : Nat} (hw : 0 < w) (hw' : w ≤ 9) (h : n < 10 ^ w) :
    fraction? ('.' :: padded w n ++ ['Z']) = some (n * 10 ^ (9 - w), ['Z']) := by
  have hlen := Digits.length_padded hw h
  have hdigit : ∀ c ∈ padded w n, isDigit c = true := fun _ => Digits.isDigit_of_mem_padded
  have hend : ∀ c ∈ ['Z'].head?, isDigit c = false := by
    rintro c ⟨⟩
    rfl
  have hne : padded w n ≠ [] := by
    intro hnil
    rw [hnil] at hlen
    exact hw.ne hlen
  have hle : (padded w n).length ≤ 9 := hlen.le.trans hw'
  show (number? 9 (padded w n ++ ['Z'])).bind (fun x => some (x.1 * Nat.pow 10
    (9 - (((padded w n ++ ['Z']).takeWhile isDigit).take 9).length),
      (padded w n ++ ['Z']).dropWhile isDigit)) = _
  rw [number?_append hdigit hne hle (.inr hend), take_takeWhile_append hdigit hle (.inr hend), hlen,
    Digits.value_padded, List.dropWhile_append_of_pos hdigit]
  rfl

theorem fraction?_fractionText {nanos : Nat} (h : nanos < 1000000000) :
    fraction? (fractionText nanos ++ ['Z']) = some (nanos, ['Z']) := by
  unfold fractionText
  split
  next h0 =>
    rw [h0]
    rfl
  next =>
  split
  next hmilli =>
    rw [fraction?_padded (by omega) (by omega) (by omega)]
    congr 2
    omega
  next =>
  split
  next hmicro =>
    rw [fraction?_padded (by omega) (by omega) (by omega)]
    congr 2
    omega
  next =>
    rw [fraction?_padded (by omega) (by omega) h, Nat.sub_self, Nat.pow_zero, Nat.mul_one]

/-! ## the whole -/

theorem of?_self (t : Instant) : of? t.seconds t.nanos = some t := by
  rw [of?, dif_pos ⟨t.inRange, t.nanos_lt⟩]

/-- the parts of a timestamp make up its instant -/
theorem ofParts?_chars (t : Instant) :
    ofParts? (Date.ofDays (t.seconds / 86400)) ((t.seconds % 86400).toNat / 3600)
      ((t.seconds % 86400).toNat / 60 % 60)
      ((t.seconds % 86400).toNat % 60 + t.nanos / 1000000000) (t.nanos % 1000000000) 0 =
      some t := by
  have hrange : earliest ≤ t.seconds / 86400 * 86400 ∧ t.seconds / 86400 * 86400 ≤ latest := by
    have := t.inRange
    unfold earliest latest at *
    omega
  have hnanos := t.nanos_lt
  have hleap : (t.seconds % 86400).toNat % 60 + t.nanos / 1000000000 = 60 ↔
      ¬ t.nanos < 1000000000 := by omega
  have hseconds : t.seconds / 86400 * 86400 + (((t.seconds % 86400).toNat / 3600 * 3600 +
      (t.seconds % 86400).toNat / 60 % 60 * 60 +
      (if (t.seconds % 86400).toNat % 60 + t.nanos / 1000000000 = 60 then 59 else
        (t.seconds % 86400).toNat % 60 + t.nanos / 1000000000) : Nat) : Int) - 0 = t.seconds := by
    split <;> omega
  have hnano : (if (t.seconds % 86400).toNat % 60 + t.nanos / 1000000000 = 60 then
      1000000000 + t.nanos % 1000000000 else t.nanos % 1000000000) = t.nanos := by
    split <;> omega
  have hvalid : ((Date.ofDays (t.seconds / 86400)).valid &&
      (t.seconds % 86400).toNat / 3600 < 24 && (t.seconds % 86400).toNat / 60 % 60 < 60 &&
      (t.seconds % 86400).toNat % 60 + t.nanos / 1000000000 ≤ 60 && (-86400 : Int) < 0 &&
      (0 : Int) < 86400 && earliest ≤ t.seconds / 86400 * 86400 &&
      t.seconds / 86400 * 86400 ≤ latest) = true := by
    simp only [Date.valid_ofDays, Bool.and_eq_true, decide_eq_true_eq, true_and]
    omega
  rw [ofParts?, Date.toDays_ofDays, hseconds, hnano, if_pos hvalid, of?_self]

theorem bind_of_eq {α β : Type} {x : Option α} {a : α} (h : x = some a) {f : α → Option β} :
    x >>= f = f a := by
  rw [h]
  rfl

theorem ofChars?_chars (t : Instant) : ofChars? t.chars = some t := by
  obtain ⟨hmonth', hday'⟩ := Date.bounds_of_valid (Date.valid_ofDays (t.seconds / 86400))
  have hmonth : (Date.ofDays (t.seconds / 86400)).month < 100 := by omega
  have hday : (Date.ofDays (t.seconds / 86400)).day < 100 := by omega
  have hhour : (t.seconds % 86400).toNat / 3600 < 100 := by omega
  have hminute : (t.seconds % 86400).toNat / 60 % 60 < 100 := by omega
  have hsecond : (t.seconds % 86400).toNat % 60 + t.nanos / 1000000000 < 100 := by
    have := t.nanos_lt
    omega
  have hnanos : t.nanos % 1000000000 < 1000000000 := by omega
  have hdash : Text.isBlank '-' = false := rfl
  have hcolon : Text.isBlank ':' = false := rfl
  rw [chars, ofChars?]
  simp only [List.append_assoc, List.cons_append]
  rw [trimLeft_yearText]
  refine (bind_of_eq (year?_yearText _ _)).trans ?_
  refine (bind_of_eq (mark?_cons hdash _)).trans ?_
  refine (bind_of_eq (pair?_padded hmonth _)).trans ?_
  refine (bind_of_eq (mark?_cons hdash _)).trans ?_
  refine (bind_of_eq (pair?_padded hday _)).trans ?_
  refine (if_pos (.inl rfl)).trans ?_
  refine (bind_of_eq (pair?_padded hhour _)).trans ?_
  refine (bind_of_eq (mark?_cons hcolon _)).trans ?_
  refine (bind_of_eq (pair?_padded hminute _)).trans ?_
  refine (bind_of_eq (mark?_cons hcolon _)).trans ?_
  refine (bind_of_eq (pair?_padded hsecond _)).trans ?_
  refine (bind_of_eq (fraction?_fractionText hnanos)).trans ?_
  exact ofParts?_chars t

/-- **A timestamp is read back.** -/
theorem ofText?_text (t : Instant) : ofText? t.text = some t := by
  rw [ofText?, text, String.toList_ofList]
  exact ofChars?_chars t

end Instant

end QueryDesk
