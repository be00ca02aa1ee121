import Mathlib.Algebra.Order.Field.Basic
import Mathlib.Algebra.Order.Field.Rat
import Mathlib.Tactic.Linarith
import Mathlib.Tactic.NormNum
import Mathlib.Tactic.Ring
import QueryDesk.Proofs.DecimalText

/-!
# Printed doubles are numbers

A numeral is read by rounding its significand, rounding a power of ten and rounding their product,
so what a double is printed as need not be read as the same double.  But it is never too big:

* `Binary64.Ceiling`                where the magnitudes past the finite ones begin;
* `Binary64.nearest_lt_of_lt`       what lies half a step below them is no overflow;
* `Decimal.amount_le`               the numeral of all but the two largest doubles lies so far below
  that three roundings do not reach it;
* `Json.Numeral.scale?_isSome`      and then its significand can be scaled.

**`Json.Number.number?_numeral_isSome`**: every printed number is read as a number.
-/

namespace QueryDesk

namespace Binary64

/-! ## how near to the top -/

section
variable {num den : Nat}

theorem parts_bounds (num den : Nat) :
    roundHalfEven num (den * 2 ^ exponent num den) ≤ 2 ^ 53 ∧
      (exponent num den = 0 ∨ 2 ^ 52 ≤ roundHalfEven num (den * 2 ^ exponent num den)) := by
  have hpos : 0 < 2 ^ exponent num den := Nat.two_pow_pos _
  obtain ⟨hlow, hhigh⟩ := roundHalfEven_bounds num (den * 2 ^ exponent num den)
  rw [← Nat.div_div_eq_div_mul] at hlow hhigh
  constructor
  · have hlt := (Nat.div_lt_iff_lt_mul hpos).mpr (div_lt_pow_exponent num den)
    omega
  · rcases pow_exponent_le num den with he | hle
    · exact .inl he
    · exact .inr (Nat.le_trans ((Nat.le_div_iff_mul_le hpos).mpr hle) hlow)

/-- half a step below the magnitude `2 ^ 53 · 2 ^ (t + 1)`, nothing is rounded to it -/
theorem nearest_lt_of_lt (hd : 0 < den) {t : Nat} (h : num < den * ((2 ^ 54 - 1) * 2 ^ t)) :
    nearest num den < (t + 3) * 2 ^ 52 := by
  obtain ⟨hm, -⟩ := parts_bounds num den
  have hdiv : num / den < 2 ^ (54 + t) := by
    refine Nat.lt_trans ((Nat.div_lt_iff_lt_mul hd).mpr (Nat.mul_comm _ _ ▸ h)) ?_
    rw [Nat.pow_add]
    exact Nat.mul_lt_mul_of_pos_right (by omega) (Nat.two_pow_pos _)
  have he : exponent num den ≤ t + 1 := by
    unfold exponent
    rcases Nat.eq_zero_or_pos (num / den) with h0 | hpos
    · rw [h0]
      exact Nat.zero_le _
    · have := (Nat.log2_lt hpos.ne').mpr hdiv
      omega
  obtain ⟨hnear, -⟩ :=
    roundHalfEven_near num (den * 2 ^ exponent num den) (Nat.mul_pos hd (Nat.two_pow_pos _))
  rw [nearest_eq]
  rcases Nat.lt_or_eq_of_le he with hlt | heq
  · omega
  · -- at the largest exponent the mantissa keeps below `2 ^ 53`
    have hpow : 2 ^ (t + 1) = 2 * 2 ^ t := Nat.pow_succ'
    rw [heq, hpow] at hnear ⊢
    generalize roundHalfEven num (den * (2 * 2 ^ t)) = m at hnear ⊢
    have hnum : 2 * num < (2 ^ 54 - 1) * (den * (2 * 2 ^ t)) := by
      calc 2 * num < 2 * (den * ((2 ^ 54 - 1) * 2 ^ t)) := by omega
        _ = (2 ^ 54 - 1) * (den * (2 * 2 ^ t)) := by ring
    have hmul : (2 * m) * (den * (2 * 2 ^ t)) < 2 ^ 54 * (den * (2 * 2 ^ t)) := by
      rw [Nat.mul_assoc]
      omega
    have := Nat.lt_of_mul_lt_mul_right hmul
    omega

/-- what is rounded to three steps below that magnitude, or less, lies well below it -/
theorem le_of_nearest (hd : 0 < den) {t : Nat} (h : nearest num den + 3 ≤ (t + 3) * 2 ^ 52) :
    num ≤ den * ((2 ^ 54 - 5) * 2 ^ t) := by
  obtain ⟨hm, hlow⟩ := parts_bounds num den
  obtain ⟨-, hnear⟩ :=
    roundHalfEven_near num (den * 2 ^ exponent num den) (Nat.mul_pos hd (Nat.two_pow_pos _))
  rw [nearest_eq] at h
  generalize roundHalfEven num (den * 2 ^ exponent num den) = m at h hm hlow hnear
  generalize exponent num den = e at h hm hlow hnear
  have htop : (2 * m + 1) * 2 ^ e ≤ 2 * ((2 ^ 54 - 5) * 2 ^ t) := by
    rcases Nat.lt_or_ge e (t + 1) with hlt | hge
    · calc (2 * m + 1) * 2 ^ e ≤ (2 * (2 ^ 54 - 5)) * 2 ^ t :=
            Nat.mul_le_mul (by omega) (Nat.pow_le_pow_right (by omega) (by omega))
        _ = 2 * ((2 ^ 54 - 5) * 2 ^ t) := Nat.mul_assoc ..
    · obtain rfl : e = t + 1 := by omega
      have hpow : 2 ^ (t + 1) = 2 * 2 ^ t := Nat.pow_succ'
      calc (2 * m + 1) * 2 ^ (t + 1) ≤ (2 ^ 54 - 5) * 2 ^ (t + 1) :=
            Nat.mul_le_mul_right _ (by omega)
        _ = 2 * ((2 ^ 54 - 5) * 2 ^ t) := by rw [hpow, Nat.mul_left_comm]
  have htwice : 2 * num ≤ 2 * (den * ((2 ^ 54 - 5) * 2 ^ t)) := by
    calc 2 * num ≤ 2 * (m * (den * 2 ^ e)) + den * 2 ^ e := hnear
      _ = den * ((2 * m + 1) * 2 ^ e) := by ring
      _ ≤ den * (2 * ((2 ^ 54 - 5) * 2 ^ t)) := Nat.mul_le_mul_left _ htop
      _ = 2 * (den * ((2 ^ 54 - 5) * 2 ^ t)) := Nat.mul_left_comm ..
  omega

end

/-- the magnitudes past the finite ones begin at `2 ^ 54 · top`, and lie between two powers of ten;
a structure keeps the digits of all these numbers out of sight -/
structure Ceiling (t top : Nat) : Prop where
  ranks_eq : ranks = (t + 3) * 2 ^ 52
  top_eq : 2 ^ t = top * one
  below : ∀ k ≤ 308, 10 ^ k < (2 ^ 54 - 1) * top
  above : ∀ k, 308 < k → (2 ^ 54 - 5) * top < 10 ^ k

theorem exists_ceiling : ∃ t top, Ceiling t top := by
  obtain ⟨m, hm⟩ : ∃ m, m = 970 := ⟨_, rfl⟩
  obtain ⟨n, hn⟩ : ∃ n, n = 1074 := ⟨_, rfl⟩
  obtain ⟨l, hl⟩ : ∃ l, l = 308 := ⟨_, rfl⟩
  have hbounds : 10 ^ l < (2 ^ 54 - 1) * 2 ^ m ∧ (2 ^ 54 - 5) * 2 ^ m < 10 ^ (l + 1) := by
    rw [hl, hm]
    decide +kernel
  obtain ⟨hbelow, habove⟩ := hbounds
  refine ⟨m + n, 2 ^ m, ?_, ?_, fun k hk => ?_, fun k hk => ?_⟩
  · rw [hm, hn]
    rfl
  · unfold one
    rw [← hn]
    exact Nat.pow_add 2 m n
  · exact Nat.lt_of_le_of_lt (Nat.pow_le_pow_right (by omega) (hl ▸ hk)) hbelow
  · exact Nat.lt_of_lt_of_le habove (Nat.pow_le_pow_right (by omega) (hl ▸ hk))

section
variable {t top : Nat} (hc : Ceiling t top)
include hc

theorem Ceiling.nearest_lt {num den : Nat} (hd : 0 < den)
    (h : num < den * ((2 ^ 54 - 1) * (top * one))) : nearest num den < ranks := by
  rw [hc.ranks_eq]
  rw [← hc.top_eq] at h
  exact nearest_lt_of_lt hd h

theorem Ceiling.magnitude_ofNat_le {n : Nat} (hpos : 0 < n) (h : n < (2 ^ 54 - 1) * top) :
    (ofNat n).magnitude ≤ n * (1 + 1 / 2 ^ 53) := by
  have hlt : n * one < 1 * ((2 ^ 54 - 1) * (top * one)) := by
    rw [Nat.one_mul, ← Nat.mul_assoc]
    exact Nat.mul_lt_mul_of_pos_right h one_pos
  have hrank : (ofNat n).rank = nearest (n * one) 1 :=
    rank_clamp (hc.nearest_lt Nat.one_pos hlt) false
  have hbig : 2 ^ 52 * 1 ≤ n * one := by
    calc 2 ^ 52 * 1 = 2 ^ 52 := Nat.mul_one _
      _ ≤ one := pow_le_one (by omega)
      _ ≤ n * one := Nat.le_mul_of_pos_left _ hpos
  have hnear := (abs_le.mp (abs_units_nearest_sub_le Nat.one_pos hbig)).2
  rw [← hrank, Nat.cast_one, div_one, Nat.cast_mul] at hnear
  rw [magnitude, div_le_iff₀ one_cast_pos]
  linarith

/-- a product of two roundings that is rounded once more -/
theorem Ceiling.mul?_isSome {m n : Nat} (hm : 0 < m) (hn : 0 < n) (hm' : m < (2 ^ 54 - 1) * top)
    (hn' : n < (2 ^ 54 - 1) * top) (h : m * n ≤ (2 ^ 54 - 5) * top) :
    ((ofNat m).mul? (ofNat n)).isSome := by
  have hmag : (ofNat m).magnitude * (ofNat n).magnitude < (2 ^ 54 - 1) * top := by
    have hbound : (m * n : ℚ) ≤ (2 ^ 54 - 5) * top := by
      have h' : ((m * n : Nat) : ℚ) ≤ (((2 ^ 54 - 5) * top : Nat) : ℚ) := Nat.cast_le.mpr h
      push_cast at h'
      linarith
    have htop : (1 : ℚ) ≤ top := by
      have : 0 < top := by
        rcases Nat.eq_zero_or_pos top with h0 | hpos
        · rw [h0] at hm'
          omega
        · exact hpos
      exact_mod_cast this
    have hnonneg : (0 : ℚ) ≤ (ofNat n).magnitude :=
      div_nonneg (Nat.cast_nonneg _) one_cast_pos.le
    have hm0 : (0 : ℚ) ≤ m * (1 + 1 / 2 ^ 53) := by positivity
    calc (ofNat m).magnitude * (ofNat n).magnitude
        ≤ m * (1 + 1 / 2 ^ 53) * (n * (1 + 1 / 2 ^ 53)) :=
          mul_le_mul (hc.magnitude_ofNat_le hm hm') (hc.magnitude_ofNat_le hn hn') hnonneg hm0
      _ = m * n * (1 + 1 / 2 ^ 53) ^ 2 := by ring
      _ ≤ (2 ^ 54 - 5) * top * (1 + 1 / 2 ^ 53) ^ 2 :=
          mul_le_mul_of_nonneg_right hbound (by positivity)
      _ < (2 ^ 54 - 1) * top := by
          have : (0 : ℚ) < top := by linarith
          rw [mul_right_comm]
          exact mul_lt_mul_of_pos_right (by norm_num) this
  have hunits : units (ofNat m).rank * units (ofNat n).rank <
      one * ((2 ^ 54 - 1) * (top * one)) := by
    have hone := one_cast_pos
    rw [magnitude, magnitude, div_mul_div_comm, div_lt_iff₀ (mul_pos hone hone)] at hmag
    have hcast : ((units (ofNat m).rank * units (ofNat n).rank : Nat) : ℚ) <
        ((one * ((2 ^ 54 - 1) * (top * one)) : Nat) : ℚ) := by
      push_cast
      linarith
    exact Nat.cast_lt.mp hcast
  have hlt := hc.nearest_lt one_pos hunits
  unfold mul? ofRank?
  rw [dif_pos hlt]
  rfl

end

end Binary64

open Binary64 Json

/-! ## the amount of a numeral -/

namespace Json.Numeral

/-- digits that are left out make a significand no larger -/
theorem gather_le (s : Nat) (ds : List Char) : (gather s ds).2 ≤ ds.length ∧
    (gather s ds).1 * 10 ^ (gather s ds).2 ≤ s * 10 ^ ds.length + Digits.value ds := by
  induction ds generalizing s with
  | nil => exact ⟨Nat.le_refl _, Nat.le_refl _⟩
  | cons c ds ih =>
    have hvalue : s * 10 ^ (c :: ds).length + Digits.value (c :: ds) =
        (10 * s + Digits.val c) * 10 ^ ds.length + Digits.value ds := by
      rw [← Digits.foldl_eq, ← Digits.foldl_eq, List.foldl_cons]
    rw [hvalue]
    unfold gather
    dsimp only
    split
    · obtain ⟨hle, hmul⟩ := ih (10 * s + Digits.val c)
      exact ⟨Nat.le_succ_of_le hle, hmul⟩
    · refine ⟨Nat.le_refl _, ?_⟩
      show s * 10 ^ (ds.length + 1) ≤ _
      calc s * 10 ^ (ds.length + 1) = 10 * s * 10 ^ ds.length := by
            rw [Nat.pow_succ', ← Nat.mul_assoc, Nat.mul_comm s]
        _ ≤ (10 * s + Digits.val c) * 10 ^ ds.length :=
            Nat.mul_le_mul_right _ (Nat.le_add_right ..)
        _ ≤ _ := Nat.le_add_right ..

theorem value_whole_lt {n : Numeral} (h : n.Proper) (hshort : n.whole.length ≤ 16) :
    Digits.value n.whole < 18446744073709551616 :=
  Nat.lt_of_lt_of_le (Digits.value_lt h.whole)
    (Nat.le_trans (Nat.pow_le_pow_right (by omega) hshort) (by omega))

/-- a numeral that is no whole one is a significand that is scaled once -/
theorem exists_scale? {n : Numeral} (h : n.Proper) (hapart : n.fraction ≠ [] ∨ n.exponent ≠ none)
    (hshort : n.whole.length ≤ 16) : ∃ significand left : Nat,
      significand * 10 ^ left ≤ Digits.value (n.whole ++ n.fraction) ∧
      n.number? = (scale? significand (n.power - n.fraction.length + left)).map
        fun x => .real (signed n.neg x) := by
  obtain ⟨neg, whole, fraction, exponent⟩ := n
  have hwhole : gather 0 whole = (Digits.value whole, 0) :=
    gather_of_lt 0 whole (value_whole_lt h hshort)
  obtain ⟨hle, hmul⟩ := gather_le (Digits.value whole) fraction
  cases hgather : gather (Digits.value whole) fraction with
  | mk significand left =>
  rw [hgather] at hle hmul
  refine ⟨significand, left, ?_, ?_⟩
  · rw [Digits.value_append]
    exact hmul
  · have hnot : ¬ (fraction = [] ∧ exponent = none) := fun hboth =>
      hapart.elim (fun hf => hf hboth.1) fun he => he hboth.2
    have hplace : ∀ p : Int, (0 : Int) - ((fraction.length - left : Nat) : Int) + p =
        p - fraction.length + left := by
      intro p
      have : left ≤ fraction.length := hle
      omega
    simp only [number?, hwhole, hgather, and_true, if_neg hnot, Nat.cast_zero, hplace]
    rfl

theorem scale?_isSome {t top : Nat} (hc : Ceiling t top) {significand : Nat} {place : Int}
    (h : 0 ≤ place → significand * 10 ^ place.toNat ≤ (2 ^ 54 - 5) * top) :
    (scale? significand place).isSome := by
  unfold scale?
  dsimp only
  split
  next => rfl
  next hfar =>
  split
  next => rfl
  next =>
  split
  next => rfl
  next hplace =>
  have hsig : 0 < significand := Nat.pos_of_ne_zero fun h0 => hfar (.inl h0)
  have hle := h (by omega)
  have hten : 0 < 10 ^ place.toNat := Nat.pow_pos (by omega)
  split
  next hsmall =>
    have htop := hc.below 0 (by omega)
    have hsig' := Nat.le_mul_of_pos_right significand hten
    exact hc.mul?_isSome hsig hten (by omega) (hc.below _ (by omega)) hle
  next hbig =>
    have hpow := Nat.le_mul_of_pos_left (10 ^ place.toNat) hsig
    exact absurd (hc.above place.toNat (by omega)) (by omega)

end Json.Numeral

/-! ## the numeral of a double -/

/-- the magnitude of a decimal that is rounded to three ranks below the top, or less -/
theorem Decimal.digits_le {t top : Nat} (hc : Ceiling t top) {d : Decimal}
    (h : d.rank + 3 ≤ ranks) :
    d.digits * 10 ^ d.place.toNat ≤ (2 ^ 54 - 5) * top * 10 ^ (-d.place).toNat := by
  rw [hc.ranks_eq, Decimal.rank] at h
  split at h
  next hplace =>
    have hle := le_of_nearest Nat.one_pos h
    rw [hc.top_eq, Nat.one_mul, ← Nat.mul_assoc] at hle
    have hzero : (-d.place).toNat = 0 := by omega
    rw [hzero, Nat.pow_zero, Nat.mul_one]
    exact Nat.le_of_mul_le_mul_right hle Binary64.one_pos
  next hplace =>
    have hle := le_of_nearest (Nat.pow_pos (by omega)) h
    rw [hc.top_eq, ← Nat.mul_assoc (2 ^ 54 - 5), Nat.mul_comm, ← Nat.mul_assoc,
      Nat.mul_comm one] at hle
    have hzero : d.place.toNat = 0 := by omega
    rw [hzero, Nat.pow_zero, Nat.mul_one, Nat.mul_comm _ (10 ^ _)]
    exact Nat.le_of_mul_le_mul_right hle Binary64.one_pos

theorem Decimal.amount_le {t top : Nat} (hc : Ceiling t top) {d : Decimal}
    (h : d.rank + 3 ≤ ranks) {significand left shift : Nat}
    (hle : significand * 10 ^ left ≤ d.digits * 10 ^ shift)
    (hpos : 0 ≤ d.place - shift + left) :
    significand * 10 ^ (d.place - shift + left).toNat ≤ (2 ^ 54 - 5) * top := by
  have hdigits := Decimal.digits_le hc h
  generalize hk : (d.place - shift + left).toNat = k
  generalize hp : d.place.toNat = p at hdigits
  generalize hq : (-d.place).toNat = q at hdigits
  have hexp : k + (shift + q) = left + p := by omega
  have hten : 0 < 10 ^ (shift + q) := Nat.pow_pos (by omega)
  refine Nat.le_of_mul_le_mul_right ?_ hten
  calc significand * 10 ^ k * 10 ^ (shift + q) = significand * 10 ^ left * 10 ^ p := by
        rw [Nat.mul_assoc, ← Nat.pow_add, hexp, Nat.pow_add, Nat.mul_assoc]
    _ ≤ d.digits * 10 ^ shift * 10 ^ p := Nat.mul_le_mul_right _ hle
    _ = d.digits * 10 ^ p * 10 ^ shift := Nat.mul_right_comm ..
    _ ≤ (2 ^ 54 - 5) * top * 10 ^ q * 10 ^ shift := Nat.mul_le_mul_right _ hdigits
    _ = (2 ^ 54 - 5) * top * 10 ^ (shift + q) := by
        rw [Nat.mul_assoc, ← Nat.pow_add, Nat.add_comm q]

/-- the numeral of any decimal below the two largest doubles -/
theorem Decimal.Written.number?_isSome {d : Decimal} {n : Numeral} (hn : d.Written n)
    (h : d.rank + 3 ≤ ranks) (neg : Bool) : ({ n with neg := neg } : Numeral).number?.isSome := by
  obtain ⟨t, top, hc⟩ := exists_ceiling
  have hproper : ({ n with neg := neg } : Numeral).Proper := hn.proper.signed neg
  obtain ⟨significand, left, hle, heq⟩ := Numeral.exists_scale? hproper hn.apart hn.short
  obtain ⟨shift, hvalue, hplace⟩ := hn.amount
  rw [heq, Option.isSome_map]
  refine Numeral.scale?_isSome hc fun hpos => ?_
  have hplace' : ({ n with neg := neg } : Numeral).power - n.fraction.length = d.place - shift :=
    hplace
  rw [hplace'] at hpos ⊢
  exact Decimal.amount_le hc h (hvalue ▸ hle) hpos

/-! ## the two largest doubles, too near to the top for that -/

theorem Decimal.shortest_last : Decimal.shortest (ranks - 1) = ⟨17976931348623157, 292⟩ := by
  decide +kernel

theorem Decimal.shortest_last_but_one :
    Decimal.shortest (ranks - 2) = ⟨17976931348623155, 292⟩ := by
  decide +kernel

theorem Decimal.number?_isSome_largest : ∀ neg : Bool,
    ({ (Decimal.shortest (ranks - 1)).numeral with neg := neg } : Numeral).number?.isSome ∧
      ({ (Decimal.shortest (ranks - 2)).numeral with neg := neg } : Numeral).number?.isSome := by
  rw [Decimal.shortest_last, Decimal.shortest_last_but_one]
  decide +kernel

theorem Binary64.number?_numeral_isSome (x : Binary64) : x.numeral.number?.isSome := by
  obtain ⟨neg, rank, finite⟩ := x
  unfold Binary64.numeral
  dsimp only
  by_cases hzero : rank = 0
  · rw [if_pos hzero]
    cases neg <;> rfl
  · rw [if_neg hzero]
    rcases Nat.lt_or_ge (ranks - 3) rank with hlast | hle
    · obtain rfl | rfl : rank = ranks - 1 ∨ rank = ranks - 2 := by
        omega
      · exact (Decimal.number?_isSome_largest neg).1
      · exact (Decimal.number?_isSome_largest neg).2
    · have hwritten := Decimal.written_numeral (Decimal.digits_shortest_ne_zero hzero)
      refine hwritten.number?_isSome ?_ neg
      rw [Decimal.rank_shortest]
      omega

/-- **Every printed number is read as a number.** -/
theorem Json.Number.number?_numeral_isSome (n : Json.Number) : n.numeral.number?.isSome := by
  cases n with
  | whole n fits =>
    rw [Json.Number.number?_numeral_whole]
    rfl
  | real x => exact x.number?_numeral_isSome

end QueryDesk
