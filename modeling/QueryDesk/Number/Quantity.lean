import QueryDesk.Number.Decimal

/-!
# Numbers as they are typed

A `Quantity` is a finite double, an infinity or no number at all.

* `Quantity.parse?`   digits with a point and an exponent, or one of the words `inf`, `infinity` and
  `nan` in any case, each behind a sign or none.  Nothing else may stand in the text, no blank
  either.
-/

namespace QueryDesk

inductive Quantity where
  | finite (x : Binary64)
  | infinite (neg : Bool)
  | undefined
deriving DecidableEq

namespace Quantity

/-- a sign, and what stands behind it -/
def sign : List Char → Bool × List Char
  | '-' :: rest => (true, rest)
  | '+' :: rest => (false, rest)
  | cs => (false, cs)

/-- a power of ten with its mark, or nothing -/
def exponent? : List Char → Option Int
  | [] => some 0
  | mark :: rest =>
    let (down, ds) := sign rest
    if (mark = 'e' ∨ mark = 'E') ∧ ds ≠ [] ∧ ds.all Digits.isDigit then
      some (if down then -(Digits.value ds : Int) else Digits.value ds)
    else none

/-- digits around a point, and an exponent -/
def decimal? (cs : List Char) : Option Decimal :=
  let (whole, rest) := cs.span Digits.isDigit
  let (fraction, rest) := match rest with
    | '.' :: rest => rest.span Digits.isDigit
    | rest => ([], rest)
  if whole = [] ∧ fraction = [] then none
  else (exponent? rest).map fun e => ⟨Digits.value (whole ++ fraction), e - fraction.length⟩

def ofDecimal (neg : Bool) (d : Decimal) : Quantity :=
  match d.rank?.bind (Binary64.ofRank? neg) with
  | some x => finite x
  | none => infinite neg

def parse? (text : String) : Option Quantity :=
  let (neg, cs) := sign text.toList
  let word := String.ofList (cs.map Char.toLower)
  if word = "inf" ∨ word = "infinity" then some (infinite neg)
  else if word = "nan" then some undefined
  else (decimal? cs).map (ofDecimal neg)

end Quantity

end QueryDesk
