/-!
# Doubles, computed exactly

A finite double is a sign and the RANK of its magnitude: finite magnitudes in increasing order are
numbered from `0`, and `Binary64.ranks` is their number.  All arithmetic is exact arithmetic on
natural numbers followed by ONE rounding.

* `mant`, `exp`, `units`   a magnitude is `mant · 2 ^ exp` units of `2 ^ (-1074)`;
* `nearest num den`        the rank nearest to `num / den` units, the even one of two;
* `ofNat`, `mul?`, `div`   a whole number, a product, a quotient, each rounded once;
* `floorHalfUp`            the whole number nearest to a magnitude, upwards from a half.

Overflow is an answer (`none`), never an infinity.
-/

namespace QueryDesk

/-- how many finite magnitudes there are -/
def Binary64.ranks : Nat := 9218868437227405312

/-- a finite double: the sign, and the place of the magnitude among all finite magnitudes -/
structure Binary64 where
  neg : Bool
  rank : Nat
  finite : rank < Binary64.ranks
deriving DecidableEq

namespace Binary64

/-! ## the value of a rank

A block of `2 ^ 52` ranks (4503599627370496) shares an exponent. -/

def exp (r : Nat) : Nat := r / 4503599627370496 - 1
def mant (r : Nat) : Nat := r - exp r * 4503599627370496

/-- the magnitude of a rank, in units of `2 ^ (-1074)` -/
def units (r : Nat) : Nat := mant r * Nat.pow 2 (exp r)

/-- the number of units in `1` -/
def one : Nat := Nat.pow 2 1074

theorem mant_add_exp (r : Nat) : mant r + exp r * 4503599627370496 = r := by
  unfold mant exp; omega

/-- the whole number nearest to `num / den`, the even one of two -/
def roundHalfEven (num den : Nat) : Nat :=
  let q := num / den
  let r := num % den
  if den < 2 * r ∨ (2 * r = den ∧ q % 2 = 1) then q + 1 else q

/-- a rounded value lies within half a step of the value -/
theorem roundHalfEven_near (num den : Nat) (h : 0 < den) :
    2 * (roundHalfEven num den * den) ≤ 2 * num + den ∧
      2 * num ≤ 2 * (roundHalfEven num den * den) + den := by
  have hm := Nat.mod_lt num h
  have hd := Nat.div_add_mod num den
  unfold roundHalfEven
  simp only
  split
  · next hc =>
    rw [Nat.add_mul, Nat.mul_comm (num / den) den]
    omega
  · next hc =>
    rw [Nat.mul_comm (num / den) den]
    omega

/-- the rank nearest to `num / den` units, the even one of two -/
def nearest (num den : Nat) : Nat :=
  let e := Nat.log2 (num / den) - 52
  e * 4503599627370496 + roundHalfEven num (den * Nat.pow 2 e)

theorem nearest_zero (den : Nat) : nearest 0 den = 0 := by
  simp [nearest, roundHalfEven]

/-- the double of a sign and a rank, unless the rank is past the finite ones -/
def ofRank? (neg : Bool) (rank : Nat) : Option Binary64 :=
  if h : rank < ranks then some ⟨neg, rank, h⟩ else none

/-- the double of a sign and a rank, at most the largest one -/
def clamp (neg : Bool) (rank : Nat) : Binary64 :=
  ⟨neg, min rank (ranks - 1), by unfold ranks; omega⟩

/-! ## arithmetic -/

def zero (neg : Bool) : Binary64 := ⟨neg, 0, by decide⟩

def isZero (x : Binary64) : Bool := x.rank == 0

/-- the double nearest to a whole number -/
def ofNat (n : Nat) : Binary64 := clamp false (nearest (n * one) 1)

def negate (x : Binary64) : Binary64 := ⟨!x.neg, x.rank, x.finite⟩

/-- the product, unless it overflows -/
def mul? (x y : Binary64) : Option Binary64 :=
  ofRank? (x.neg != y.neg) (nearest (units x.rank * units y.rank) one)

/-- the quotient (by a magnitude of at least `1` it cannot overflow) -/
def div (x y : Binary64) : Binary64 :=
  clamp (x.neg != y.neg) (nearest (units x.rank * one) (units y.rank))

/-- the whole number nearest to the magnitude, the larger one of two -/
def floorHalfUp (x : Binary64) : Nat := (2 * units x.rank + one) / (2 * one)

/-- equality of the numbers: a zero has no sign -/
def same (x y : Binary64) : Bool := x.rank == y.rank && (x.neg == y.neg || x.rank == 0)

end Binary64

end QueryDesk
