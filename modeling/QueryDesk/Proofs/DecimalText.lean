import QueryDesk.Json.Printer
import QueryDesk.Proofs.NumeralText
import QueryDesk.Proofs.ShortestDecimal

/-!
# Numbers as they are written

* `Decimal.numeral`     the numeral that a decimal is written as;
* `Decimal.Written`     what that numeral has to do with the decimal;
* `Binary64.numeral`, `Json.Number.numeral`   the numeral of a double, of any number.

**`Number.text_eq`, `Number.proper_numeral`**: every number is written as a proper numeral; a whole
one is read back as it was (`Number.number?_numeral_whole`).
-/

namespace QueryDesk

/-! ## digits -/

namespace Digits

theorem foldl_eq (v : Nat) (cs : List Char) :
    cs.foldl (fun v c => 10 * v + val c) v = v * 10 ^ cs.length + value cs := by
  induction cs generalizing v with
  | nil => simp [value]
  | cons c cs ih =>
    show cs.foldl _ (10 * v + val c) = _
    have hcons : value (c :: cs) = val c * 10 ^ cs.length + value cs := by
      show cs.foldl _ (10 * 0 + val c) = _
      rw [ih, Nat.mul_zero, Nat.zero_add]
    rw [ih, hcons, List.length_cons, Nat.pow_succ, Nat.add_mul, Nat.mul_comm 10 v, Nat.mul_assoc,
      Nat.mul_comm 10, Nat.add_assoc]

theorem value_append (a b : List Char) : value (a ++ b) = value a * 10 ^ b.length + value b := by
  rw [value, List.foldl_append, foldl_eq]
  rfl

theorem value_zeros (k : Nat) : value (Decimal.zeros k) = 0 := by
  induction k with
  | zero => rfl
  | succ k ih =>
    rw [Decimal.zeros, List.replicate_succ', value_append_one]
    rw [Decimal.zeros] at ih
    rw [ih]
    rfl

theorem val_le {c : Char} (h : isDigit c = true) : val c ≤ 9 := by
  have := (of_decide_eq_true h).2
  unfold val
  omega

theorem value_lt {cs : List Char} (h : ∀ c ∈ cs, isDigit c = true) : value cs < 10 ^ cs.length := by
  induction cs with
  | nil => exact Nat.one_pos
  | cons c cs ih =>
    obtain ⟨hc, hcs⟩ := List.forall_mem_cons.mp h
    have hval := val_le hc
    have hrest := ih hcs
    have hmul : val c * 10 ^ cs.length ≤ 9 * 10 ^ cs.length := Nat.mul_le_mul_right _ hval
    have hone : value [c] = val c := Nat.zero_add _
    rw [← List.singleton_append, value_append, hone, List.length_append, List.length_singleton,
      Nat.pow_add]
    omega

theorem isDigit_of_mem_zero {c : Char} (h : c ∈ ['0']) : isDigit c = true := by
  rw [List.mem_singleton.mp h]
  rfl

theorem head?_digits {n : Nat} (h : n ≠ 0) : (digits n).head? ≠ some '0' := by
  induction n using digits.induct with
  | case1 n hn =>
    rw [digits, if_pos hn]
    intro h0
    have : val (char n) = val '0' := congrArg val (Option.some.inj h0)
    rw [val_char hn] at this
    exact h this
  | case2 n hn ih =>
    obtain ⟨c, cs, heq⟩ := List.exists_cons_of_ne_nil (digits_ne_nil (n / 10))
    have hrest := ih (by omega)
    rw [heq] at hrest
    rw [digits, if_neg hn, heq]
    exact hrest

theorem isDigit_of_mem_zeros {k : Nat} {c : Char} (h : c ∈ Decimal.zeros k) : isDigit c = true := by
  rw [List.eq_of_mem_replicate h]
  rfl

end Digits

/-! ## the numeral of a decimal -/

open Json (Numeral)

/-- the power of ten that the exponent of a numeral stands for -/
def Json.Numeral.power (n : Numeral) : Int :=
  match n.exponent with
  | none => 0
  | some (down, ds) => if down then -(Digits.value ds : Int) else Digits.value ds

namespace Decimal

def numeral (d : Decimal) : Numeral :=
  let ds := Digits.digits d.digits
  let e := d.magnitude
  if 0 ≤ e ∧ e < 16 then
    let whole := e.toNat + 1
    if ds.length ≤ whole then ⟨false, ds ++ zeros (whole - ds.length), ['0'], none⟩
    else ⟨false, ds.take whole, ds.drop whole, none⟩
  else if -5 ≤ e ∧ e < 0 then ⟨false, ['0'], zeros ((-e).toNat - 1) ++ ds, none⟩
  else ⟨false, ds.take 1, ds.drop 1, some (decide (e < 0), Digits.digits e.natAbs)⟩

/-- the numeral of a decimal: the same digits, but for zeros around them, at the same places -/
structure Written (d : Decimal) (n : Numeral) : Prop where
  text_eq : d.text = n.chars
  proper : n.Proper
  unsigned : n.neg = false
  /-- it is no whole numeral -/
  apart : n.fraction ≠ [] ∨ n.exponent ≠ none
  short : n.whole.length ≤ 16
  amount : ∃ shift : Nat, Digits.value (n.whole ++ n.fraction) = d.digits * 10 ^ shift ∧
    n.power - n.fraction.length = d.place - shift

/-- the digits of a decimal, apart from how they come about -/
structure Led (d : Decimal) (first : Char) (rest : List Char) : Prop where
  digits_eq : Digits.digits d.digits = first :: rest
  first_ne : first ≠ '0'
  digit : ∀ c ∈ first :: rest, Digits.isDigit c = true
  value_eq : Digits.value (first :: rest) = d.digits
  magnitude_eq : d.magnitude = d.place + rest.length

section
variable {d : Decimal} {first : Char} {rest : List Char}

theorem exists_led (h : d.digits ≠ 0) : ∃ first rest, Led d first rest := by
  obtain ⟨first, rest, heq⟩ := List.exists_cons_of_ne_nil (Digits.digits_ne_nil d.digits)
  refine ⟨first, rest, heq, ?_, ?_, ?_, ?_⟩
  · rintro rfl
    exact Digits.head?_digits h (by rw [heq]; rfl)
  · rw [← heq]
    exact Digits.isDigit_of_mem_digits _
  · rw [← heq]
    exact Digits.value_digits _
  · rw [magnitude, heq, List.length_cons]
    omega

theorem Led.no_leading_zero (h : Led d first rest) (tail : List Char) :
    (first :: tail).head? = some '0' → first :: tail = ['0'] :=
  fun h0 => absurd (Option.some.inj h0) h.first_ne

/-- zeros up to the point -/
theorem Led.written_whole (h : Led d first rest) (hpos : 0 ≤ d.magnitude ∧ d.magnitude < 16)
    (hlen : (first :: rest).length ≤ d.magnitude.toNat + 1) :
    Written d ⟨false, first :: rest ++ zeros (d.magnitude.toNat + 1 - (first :: rest).length),
      ['0'], none⟩ := by
  have htext : d.text = first :: rest ++
      zeros (d.magnitude.toNat + 1 - (first :: rest).length) ++ ['.', '0'] := by
    rw [text, h.digits_eq]
    dsimp only
    rw [if_pos hpos, if_pos hlen]
  have hmag := h.magnitude_eq
  rw [List.length_cons] at hlen htext ⊢
  generalize hk : d.magnitude.toNat + 1 - (rest.length + 1) = k at htext ⊢
  refine ⟨?_, ⟨List.cons_ne_nil _ _, ?_, h.no_leading_zero _, ?_, nofun⟩, rfl,
    .inl (List.cons_ne_nil _ _), ?_, k + 1, ?_, ?_⟩
  · show _ = [] ++ _ ++ ['.', '0'] ++ []
    rw [htext, List.nil_append, List.append_nil]
  · intro c hc
    exact (List.mem_append.mp hc).elim (h.digit c) Digits.isDigit_of_mem_zeros
  · exact fun _ => Digits.isDigit_of_mem_zero
  · show (first :: rest ++ zeros k).length ≤ 16
    rw [List.length_append, zeros, List.length_replicate, List.length_cons]
    omega
  · show Digits.value (first :: rest ++ zeros k ++ ['0']) = _
    rw [Digits.value_append_one, Digits.value_append, Digits.value_zeros, h.value_eq, zeros,
      List.length_replicate, Nat.pow_succ, ← Nat.mul_assoc]
    show 10 * (_ + 0) + 0 = _
    omega
  · show (0 : Int) - ((1 : Nat) : Int) = _
    omega

/-- the point among the digits -/
theorem Led.written_pointed (h : Led d first rest) (hpos : 0 ≤ d.magnitude ∧ d.magnitude < 16)
    (hlen : ¬ (first :: rest).length ≤ d.magnitude.toNat + 1) :
    Written d ⟨false, (first :: rest).take (d.magnitude.toNat + 1),
      (first :: rest).drop (d.magnitude.toNat + 1), none⟩ := by
  have htext : d.text = (first :: rest).take (d.magnitude.toNat + 1) ++
      '.' :: (first :: rest).drop (d.magnitude.toNat + 1) := by
    rw [text, h.digits_eq]
    dsimp only
    rw [if_pos hpos, if_neg hlen]
  have hmag := h.magnitude_eq
  have hne : (first :: rest).drop (d.magnitude.toNat + 1) ≠ [] := by
    rw [ne_eq, List.drop_eq_nil_iff]
    exact hlen
  rw [List.length_cons] at hlen
  refine ⟨?_, ⟨List.cons_ne_nil _ _, ?_, h.no_leading_zero _, ?_, nofun⟩, rfl, .inl hne, ?_, 0,
    ?_, ?_⟩
  · rw [htext, Numeral.chars, Numeral.fractionChars, if_neg hne]
    show _ = [] ++ _ ++ _ ++ []
    rw [List.nil_append, List.append_nil]
  · exact fun c hc => h.digit c (List.mem_of_mem_take hc)
  · exact fun c hc => h.digit c (List.mem_of_mem_drop hc)
  · rw [List.length_take, List.length_cons]
    omega
  · rw [List.take_append_drop, h.value_eq, Nat.pow_zero, Nat.mul_one]
  · rw [List.length_drop, List.length_cons]
    show (0 : Int) - _ = _
    omega

/-- zeros behind the point -/
theorem Led.written_small (h : Led d first rest) (hneg : -5 ≤ d.magnitude ∧ d.magnitude < 0) :
    Written d ⟨false, ['0'], zeros ((-d.magnitude).toNat - 1) ++ (first :: rest), none⟩ := by
  have htext : d.text = '0' :: '.' :: zeros ((-d.magnitude).toNat - 1) ++ (first :: rest) := by
    rw [text, h.digits_eq]
    dsimp only
    rw [if_neg (by omega), if_pos hneg]
  have hmag := h.magnitude_eq
  generalize hk : (-d.magnitude).toNat - 1 = k at htext ⊢
  have hne : zeros k ++ (first :: rest) ≠ [] := List.append_ne_nil_of_right_ne_nil _ (by simp)
  refine ⟨?_, ⟨List.cons_ne_nil _ _, ?_, fun _ => rfl, ?_, nofun⟩, rfl, .inl hne,
    Nat.succ_le_succ (Nat.zero_le 15), 0, ?_, ?_⟩
  · rw [htext, Numeral.chars, Numeral.fractionChars, if_neg hne]
    show _ = [] ++ ['0'] ++ _ ++ []
    rw [List.nil_append, List.append_nil]
    rfl
  · exact fun _ => Digits.isDigit_of_mem_zero
  · intro c hc
    exact (List.mem_append.mp hc).elim Digits.isDigit_of_mem_zeros (h.digit c)
  · rw [← List.append_assoc, Digits.value_append, Digits.value_append, Digits.value_zeros,
      h.value_eq, Nat.pow_zero, Nat.mul_one]
    show (0 * _ + 0) * _ + _ = _
    omega
  · rw [List.length_append, zeros, List.length_replicate, List.length_cons]
    show (0 : Int) - _ = _
    omega

/-- one digit in front of the point, and an exponent -/
theorem Led.written_scientific (h : Led d first rest)
    (hpos : ¬ (0 ≤ d.magnitude ∧ d.magnitude < 16))
    (hneg : ¬ (-5 ≤ d.magnitude ∧ d.magnitude < 0)) :
    Written d ⟨false, [first], rest,
      some (decide (d.magnitude < 0), Digits.digits d.magnitude.natAbs)⟩ := by
  have htext : d.text = first :: Numeral.fractionChars rest ++
      'e' :: (if d.magnitude < 0 then '-' else '+') :: Digits.digits d.magnitude.natAbs := by
    rw [text, h.digits_eq]
    dsimp only
    rw [if_neg hpos, if_neg hneg]
    cases rest with
    | nil => rfl
    | cons second rest => rfl
  have hmag := h.magnitude_eq
  refine ⟨?_, ⟨List.cons_ne_nil _ _, ?_, h.no_leading_zero _, ?_, ?_⟩, rfl, .inr nofun,
    Nat.succ_le_succ (Nat.zero_le 15), 0, ?_, ?_⟩
  · rw [htext, Numeral.chars, Numeral.exponentChars]
    simp only [decide_eq_true_eq]
    rfl
  · exact fun c hc => h.digit c (List.mem_cons.mpr (.inl (List.mem_singleton.mp hc)))
  · exact fun c hc => h.digit c (List.mem_cons_of_mem _ hc)
  · intro e he
    obtain rfl := Option.some.inj he
    exact ⟨Digits.digits_ne_nil _, Digits.isDigit_of_mem_digits _⟩
  · rw [List.singleton_append, h.value_eq, Nat.pow_zero, Nat.mul_one]
  · show (if decide (d.magnitude < 0) = true then -(Digits.value _ : Int)
      else Digits.value _) - (rest.length : Int) = _
    rw [Digits.value_digits]
    simp only [decide_eq_true_eq]
    split <;> omega

theorem written_numeral (h : d.digits ≠ 0) : Written d d.numeral := by
  obtain ⟨first, rest, hled⟩ := exists_led h
  unfold numeral
  rw [hled.digits_eq]
  dsimp only
  split
  next hpos =>
    split
    next hlen => exact hled.written_whole hpos hlen
    next hlen => exact hled.written_pointed hpos hlen
  next hpos =>
    split
    next hneg => exact hled.written_small hneg
    next hneg => exact hled.written_scientific hpos hneg

end

end Decimal

/-! ## the numeral of a number -/

theorem Json.Numeral.chars_signed {n : Numeral} (h : n.neg = false) (neg : Bool) :
    ({ n with neg := neg } : Numeral).chars = if neg then '-' :: n.chars else n.chars := by
  cases neg with
  | true =>
    have hchars : n.chars = n.whole ++ Numeral.fractionChars n.fraction ++
        Numeral.exponentChars n.exponent := by
      rw [Numeral.chars, h]
      rfl
    rw [hchars]
    rfl
  | false =>
    rw [Numeral.chars, Numeral.chars, h]
    rfl

theorem Json.Numeral.Proper.signed {n : Numeral} (h : n.Proper) (neg : Bool) :
    ({ n with neg := neg } : Numeral).Proper :=
  ⟨h.whole_ne, h.whole, h.no_leading_zero, h.fraction, h.exponent⟩

namespace Binary64

def numeral (x : Binary64) : Numeral :=
  { (if x.rank = 0 then ⟨false, ['0'], ['0'], none⟩ else (Decimal.shortest x.rank).numeral) with
    neg := x.neg }

theorem text_eq (x : Binary64) : x.text = x.numeral.chars := by
  unfold text numeral
  dsimp only
  by_cases h : x.rank = 0
  · rw [if_pos h, if_pos h, Numeral.chars_signed rfl]
    rfl
  · have hwritten := Decimal.written_numeral (Decimal.digits_shortest_ne_zero h)
    rw [if_neg h, if_neg h, Numeral.chars_signed hwritten.unsigned, hwritten.text_eq]

theorem proper_numeral (x : Binary64) : x.numeral.Proper := by
  refine Json.Numeral.Proper.signed ?_ x.neg
  by_cases h : x.rank = 0
  · rw [if_pos h]
    exact ⟨List.cons_ne_nil _ _, fun _ => Digits.isDigit_of_mem_zero, fun _ => rfl,
      fun _ => Digits.isDigit_of_mem_zero, nofun⟩
  · rw [if_neg h]
    exact (Decimal.written_numeral (Decimal.digits_shortest_ne_zero h)).proper

end Binary64

namespace Json.Number

def numeral : Number → Numeral
  | whole n _ => ⟨decide (n < 0), Digits.digits n.natAbs, [], none⟩
  | real x => x.numeral

theorem text_eq (n : Number) : n.text = n.numeral.chars := by
  cases n with
  | whole n fits =>
    show (if n < 0 then _ else _) = Numeral.signChars (decide (n < 0)) ++ _ ++ [] ++ []
    rw [List.append_nil, List.append_nil, Numeral.signChars]
    simp only [decide_eq_true_eq]
    split <;> rfl
  | real x => exact x.text_eq

theorem proper_numeral (n : Number) : n.numeral.Proper := by
  cases n with
  | whole n fits =>
    refine ⟨Digits.digits_ne_nil _, Digits.isDigit_of_mem_digits _, fun h => ?_, nofun, nofun⟩
    by_cases h0 : n.natAbs = 0
    · show Digits.digits n.natAbs = ['0']
      rw [h0, Digits.digits]
      rfl
    · exact absurd h (Digits.head?_digits h0)
  | real x => exact x.proper_numeral

/-- whole numbers are read back -/
theorem number?_numeral_whole (n : Int)
    (fits : -9223372036854775808 ≤ n ∧ n < 18446744073709551616) :
    (whole n fits).numeral.number? = some (whole n fits) := by
  have hvalue : (Digits.digits n.natAbs).foldl (fun v c => 10 * v + Digits.val c) 0 = n.natAbs :=
    Digits.value_digits n.natAbs
  have hgather : Numeral.gather 0 (Digits.digits n.natAbs) = (n.natAbs, 0) := by
    rw [Numeral.gather_of_lt _ _ (by rw [hvalue]; omega), hvalue]
  have hsign : (if decide (n < 0) = true then -(n.natAbs : Int) else n.natAbs) = n := by
    simp only [decide_eq_true_eq]
    split <;> omega
  have hfits : (decide (n < 0) = false ∨ n < 0) ∧
      -9223372036854775808 ≤ n ∧ n < 18446744073709551616 :=
    ⟨by simp only [decide_eq_false_iff_not]; omega, fits⟩
  simp only [numeral, Numeral.number?, hgather, hsign, hfits, and_self, if_true, dif_pos]

end Json.Number

end QueryDesk
