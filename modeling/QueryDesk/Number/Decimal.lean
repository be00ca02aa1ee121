import QueryDesk.Number.Binary64
import QueryDesk.Number.Digits

/-!
# Decimal numerals of doubles

A `Decimal` is a magnitude `digits · 10 ^ place`.

* `Decimal.rank`        the rank of the double nearest to it;
* `onGrid?`             a numeral with a given last place that reads back as a given rank;
* `Binary64.shortest`   the numeral with the fewest digits that reads back, the nearest of those;
* `Decimal.text`        its spelling: positional from `10 ^ (-5)` up to below `10 ^ 16`.
-/

namespace QueryDesk

/-- the magnitude `digits · 10 ^ place` -/
structure Decimal where
  digits : Nat
  place : Int
deriving DecidableEq

namespace Decimal

open Binary64 (units one nearest roundHalfEven ranks)

/-- the rank nearest to the magnitude, the even one of two -/
def rank (d : Decimal) : Nat :=
  if 0 ≤ d.place then nearest (d.digits * Nat.pow 10 d.place.toNat * one) 1
  else nearest (d.digits * one) (Nat.pow 10 (-d.place).toNat)

/-- the power of ten of the first digit -/
def magnitude (d : Decimal) : Int := d.place + (Digits.digits d.digits).length - 1

/-- the rank, unless it is past the finite ones; a far place is decided without its power of ten -/
def rank? (d : Decimal) : Option Nat :=
  if d.digits = 0 ∨ d.magnitude < -400 then some 0
  else if 400 < d.magnitude then none
  else if d.rank < ranks then some d.rank else none

/-! ## the shortest numeral -/

/-- a neighbour of the magnitude of rank `r` among the multiples of `10 ^ place` that reads back as
`r`: of two the nearer, the even one when both are as near -/
def onGrid? (r : Nat) (place : Int) : Option Decimal :=
  let num := units r * Nat.pow 10 (-place).toNat
  let den := one * Nat.pow 10 place.toNat
  let low : Decimal := ⟨num / den, place⟩
  let high : Decimal := ⟨num / den + 1, place⟩
  if low.rank = r then
    if high.rank = r then some ⟨roundHalfEven num den, place⟩ else some low
  else if high.rank = r then some high else none

/-- a place at which one digit stands at or above the magnitude of rank `r` -/
def topPlace (r : Nat) : Int := ((Nat.log2 (units r) : Int) - 1073) * 30103 / 100000 + 1

/-- all decimal places of a magnitude -/
def exact (r : Nat) : Decimal := ⟨units r * Nat.pow 5 1074, -1074⟩

/-- the numeral with the fewest digits that reads back as rank `r` -/
def shortest (r : Nat) : Decimal :=
  ((List.range 20).findSome? fun (i : Nat) => onGrid? r (topPlace r - i)).getD (exact r)

/-! ## spelling -/

def zeros (n : Nat) : List Char := List.replicate n '0'

/-- at least one digit stands on each side of a point; an exponent has its sign and no padding -/
def text (d : Decimal) : List Char :=
  let ds := Digits.digits d.digits
  let e := d.magnitude
  if 0 ≤ e ∧ e < 16 then
    let whole := e.toNat + 1
    if ds.length ≤ whole then ds ++ zeros (whole - ds.length) ++ ['.', '0']
    else ds.take whole ++ '.' :: ds.drop whole
  else if -5 ≤ e ∧ e < 0 then '0' :: '.' :: zeros ((-e).toNat - 1) ++ ds
  else
    let sign := if e < 0 then '-' else '+'
    let mantissa := match ds with
      | first :: second :: rest => first :: '.' :: second :: rest
      | _ => ds
    mantissa ++ 'e' :: sign :: Digits.digits e.natAbs

end Decimal

namespace Binary64

/-- the shortest numeral that reads back, behind its sign -/
def text (x : Binary64) : List Char :=
  let magnitude := if x.rank = 0 then ['0', '.', '0'] else (Decimal.shortest x.rank).text
  if x.neg then '-' :: magnitude else magnitude

/-- a fixed number of places behind the point, rounded from the exact value -/
def fixed (places : Nat) (x : Binary64) : List Char :=
  let n := roundHalfEven (units x.rank * Nat.pow 10 places) Binary64.one
  let one := Nat.pow 10 places
  let magnitude := Digits.digits (n / one) ++ '.' :: Digits.padded places (n % one)
  if x.neg then '-' :: magnitude else magnitude

/-- the double nearest to a numeral, unless it overflows -/
def ofDecimal? (neg : Bool) (d : Decimal) : Option Binary64 := do
  ofRank? neg (← d.rank?)

end Binary64

end QueryDesk
