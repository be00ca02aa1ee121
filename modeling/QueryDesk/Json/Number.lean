import QueryDesk.Json.Basic
import QueryDesk.Number.Decimal

/-!
# The number that a JSON numeral stands for

A `Numeral` is a number as it is spelt.  Its digits are gathered into a significand below `2 ^ 64`;
digits that no longer fit count only through their place.

* a numeral without point and exponent whose digits all fit is whole, if 64 bits can hold it;
* `-0` and a negative number below `-2 ^ 63` are doubles;
* every other numeral is its significand, rounded to a double, times or over ONE power of ten, that
  too rounded: two roundings, so a long numeral need not be the nearest double.

A number too big for a double is no number.
-/

namespace QueryDesk.Json

/-- the spelling of a number; digits are kept as written -/
structure Numeral where
  neg : Bool
  whole : List Char
  fraction : List Char
  exponent : Option (Bool × List Char)

namespace Numeral

/-- the significand after as many digits as keep it below `2 ^ 64`, and how many are left -/
def gather (significand : Nat) : List Char → Nat × Nat
  | [] => (significand, 0)
  | c :: rest =>
    let longer := 10 * significand + Digits.val c
    if longer < 18446744073709551616 then gather longer rest else (significand, rest.length + 1)

/-- once all digits fit, the significand is the number they spell -/
theorem gather_of_lt (s : Nat) (ds : List Char)
    (h : ds.foldl (fun v c => 10 * v + Digits.val c) s < 18446744073709551616) :
    gather s ds = (ds.foldl (fun v c => 10 * v + Digits.val c) s, 0) := by
  induction ds generalizing s with
  | nil => rfl
  | cons c ds ih =>
    have grows : ∀ (v : Nat) (l : List Char), v ≤ l.foldl (fun v c => 10 * v + Digits.val c) v := by
      intro v l
      induction l generalizing v with
      | nil => exact Nat.le_refl _
      | cons c l ih => exact Nat.le_trans (by omega) (ih (10 * v + Digits.val c))
    have hs := Nat.lt_of_le_of_lt (grows (10 * s + Digits.val c) ds) h
    simp only [gather, hs, if_true, List.foldl_cons]
    exact ih _ h

/-- a significand times a power of ten -/
def scale? (significand : Nat) (place : Int) : Option Binary64 :=
  let x := Binary64.ofNat significand
  if significand = 0 ∨ place < -616 then some (Binary64.zero false)
  else if place < -308 then
    let y := x.div (Binary64.ofNat (Nat.pow 10 308))
    some (y.div (Binary64.ofNat (Nat.pow 10 (-308 - place).toNat)))
  else if place < 0 then some (x.div (Binary64.ofNat (Nat.pow 10 (-place).toNat)))
  else if place ≤ 308 then x.mul? (Binary64.ofNat (Nat.pow 10 place.toNat))
  else none

def signed (neg : Bool) (x : Binary64) : Binary64 := if neg then x.negate else x

def number? (n : Numeral) : Option Number :=
  let (whole, past) := gather 0 n.whole
  if n.fraction = [] ∧ n.exponent = none ∧ past = 0 then
    let m : Int := if n.neg then -whole else whole
    if h : (n.neg = false ∨ m < 0) ∧ -9223372036854775808 ≤ m ∧ m < 18446744073709551616 then
      some (.whole m h.2)
    else some (.real (signed n.neg (Binary64.ofNat whole)))
  else
    let (significand, unread) := gather whole n.fraction
    let place : Int := past - ((n.fraction.length - unread : Nat) : Int)
    let exponent : Int := match n.exponent with
      | none => 0
      | some (down, ds) => if down then -(Digits.value ds : Int) else Digits.value ds
    (scale? significand (place + exponent)).map fun x => .real (signed n.neg x)

end Numeral

/-- the double nearest to a number -/
def Number.toDouble : Number → Binary64
  | .whole n _ => Numeral.signed (n < 0) (Binary64.ofNat n.natAbs)
  | .real x => x

end QueryDesk.Json
