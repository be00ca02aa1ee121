import QueryDesk.Number.Decimal
import QueryDesk.Proofs.Elapsed

/-!
# The shortest numeral of a double

* `nearest_units`       a magnitude is its own nearest;
* **`rank_shortest`**   the shortest numeral of a rank is nearest to that rank.
-/

namespace QueryDesk

namespace Binary64

/-- all 53 bits of a mantissa are used, unless the exponent is the least one -/
theorem mant_bounds (r : Nat) : mant r < 2 ^ 53 ∧ (2 ^ 52 ≤ mant r ∨ exp r = 0) := by
  unfold mant exp
  omega

theorem exponent_units (r : Nat) : exponent (units r) 1 = exp r := by
  obtain ⟨hlt, hge⟩ := mant_bounds r
  unfold exponent units
  rw [Nat.div_one]
  rcases Nat.eq_zero_or_pos (mant r) with h0 | hpos
  · have he : exp r = 0 := by
      rw [h0] at hge
      omega
    rw [h0, he]
    rfl
  · have hne : mant r * 2 ^ exp r ≠ 0 := Nat.mul_ne_zero hpos.ne' (Nat.two_pow_pos _).ne'
    have hhigh : Nat.log2 (mant r * 2 ^ exp r) < 53 + exp r := by
      rw [Nat.log2_lt hne, Nat.pow_add]
      exact Nat.mul_lt_mul_of_pos_right hlt (Nat.two_pow_pos _)
    show Nat.log2 (mant r * 2 ^ exp r) - 52 = exp r
    rcases hge with hge | he
    · have hlow : 52 + exp r ≤ Nat.log2 (mant r * 2 ^ exp r) := by
        rw [Nat.le_log2 hne, Nat.pow_add]
        exact Nat.mul_le_mul_right _ hge
      omega
    · omega

theorem nearest_units (r : Nat) : nearest (units r) 1 = r := by
  have hone : 1 * 2 ^ exp r = 2 ^ exp r := Nat.one_mul _
  rw [nearest_eq, exponent_units, hone]
  unfold units
  show _ + roundHalfEven (mant r * 2 ^ exp r) (2 ^ exp r) = r
  rw [Nat.mul_comm (mant r), roundHalfEven_mul_right (Nat.two_pow_pos _), Nat.add_comm]
  exact mant_add_exp r

end Binary64

namespace Decimal

open Binary64

theorem rank_of_digits_eq_zero {d : Decimal} (h : d.digits = 0) : d.rank = 0 := by
  unfold rank
  simp only [h, Nat.zero_mul, nearest_zero, ite_self]

theorem rank_of_onGrid? {r : Nat} {place : Int} {d : Decimal} (h : onGrid? r place = some d) :
    d.rank = r := by
  unfold onGrid? at h
  dsimp only at h
  generalize units r * Nat.pow 10 (-place).toNat = num at h
  generalize one * Nat.pow 10 place.toNat = den at h
  split at h
  next hlow =>
    split at h
    next hhigh =>
      -- the rounded quotient is one of the two neighbours
      obtain rfl := Option.some.inj h
      obtain ⟨hge, hle⟩ := roundHalfEven_bounds num den
      obtain heq | heq : roundHalfEven num den = num / den ∨ roundHalfEven num den = num / den + 1 := by
        omega
      · rw [heq, hlow]
      · rw [heq, hhigh]
    next => rw [← Option.some.inj h, hlow]
  next =>
    split at h
    next hhigh => rw [← Option.some.inj h, hhigh]
    next => cases h

theorem nearest_scaled (r n : Nat) :
    nearest (units r * Nat.pow 5 n * Nat.pow 2 n) (Nat.pow 10 n) = r := by
  have hpos : 0 < Nat.pow 10 n := Nat.pow_pos (by omega)
  have hunits : units r * Nat.pow 5 n * Nat.pow 2 n = Nat.pow 10 n * units r := by
    show units r * 5 ^ n * 2 ^ n = 10 ^ n * units r
    rw [Nat.mul_assoc, ← Nat.mul_pow, Nat.mul_comm]
  calc nearest (units r * Nat.pow 5 n * Nat.pow 2 n) (Nat.pow 10 n)
      = nearest (Nat.pow 10 n * units r) (Nat.pow 10 n * 1) := by rw [hunits, Nat.mul_one]
    _ = nearest (units r) 1 := nearest_mul_mul_left hpos _ _
    _ = r := nearest_units r

/-- all decimal places of a magnitude make up the magnitude -/
theorem rank_exact (r : Nat) : (exact r).rank = r := by
  have hplace : (-(-1074 : Int)).toNat = 1074 := rfl
  have hneg : ¬ (0 : Int) ≤ -1074 := by omega
  rw [rank, exact, if_neg hneg, hplace]
  unfold one
  generalize 1074 = n
  exact nearest_scaled r n

theorem rank_shortest (r : Nat) : (shortest r).rank = r := by
  unfold shortest
  cases hfind : (List.range 20).findSome? fun (i : Nat) => onGrid? r (topPlace r - i) with
  | none => exact rank_exact r
  | some d =>
    obtain ⟨i, -, hi⟩ := List.exists_of_findSome?_eq_some hfind
    exact rank_of_onGrid? hi

theorem digits_shortest_ne_zero {r : Nat} (h : r ≠ 0) : (shortest r).digits ≠ 0 := by
  intro h0
  have := rank_shortest r
  rw [rank_of_digits_eq_zero h0] at this
  exact h this.symm

end Decimal

end QueryDesk
