/-!
# The calendar

Days are counted from 1970-01-01; dates are those of the Gregorian calendar, extended to all years.
Years are taken to begin in March, so that a leap day is the last day of its year, and 400 of them
make a cycle of 146097 days.

* `Date.valid`    the date exists;
* `Date.toDays`   its day;
* `Date.ofDays`   the date of a day.
-/

namespace QueryDesk

structure Date where
  year : Int
  month : Nat
  day : Nat
deriving DecidableEq

namespace Date

def isLeap (year : Int) : Bool := year % 4 = 0 && (year % 100 ≠ 0 || year % 400 = 0)

def monthLength (year : Int) (month : Nat) : Nat :=
  if month = 2 then (if isLeap year then 29 else 28)
  else if month = 4 ∨ month = 6 ∨ month = 9 ∨ month = 11 then 30
  else 31

def valid (d : Date) : Bool :=
  1 ≤ d.month && d.month ≤ 12 && 1 ≤ d.day && d.day ≤ monthLength d.year d.month

/-- the days of a cycle before its year `y` -/
def yearStart (y : Nat) : Nat := 365 * y + y / 4 - y / 100

/-- the days before the month that comes `m` months after March -/
def monthStart (m : Nat) : Nat := (153 * m + 2) / 5

def toDays (d : Date) : Int :=
  let year := if d.month ≤ 2 then d.year - 1 else d.year
  let month := if d.month ≤ 2 then d.month + 9 else d.month - 3
  let dayOfCycle := yearStart (year % 400).toNat + monthStart month + (d.day - 1)
  year / 400 * 146097 + dayOfCycle - 719468

def ofDays (days : Int) : Date :=
  let shifted := days + 719468
  let dayOfCycle := (shifted % 146097).toNat
  let year :=
    (dayOfCycle - dayOfCycle / 1460 + dayOfCycle / 36524 - dayOfCycle / 146096) / 365
  let dayOfYear := dayOfCycle - yearStart year
  let month := (5 * dayOfYear + 2) / 153
  let day := dayOfYear - monthStart month + 1
  let marchYear := (year : Int) + shifted / 146097 * 400
  if month < 10 then ⟨marchYear, month + 3, day⟩ else ⟨marchYear + 1, month - 9, day⟩

end Date

end QueryDesk
