import QueryDesk.Time.Calendar
import QueryDesk.Number.Binary64

/-!
# Instants

* `Instant`             a point in time, in whole seconds and a fraction of nanoseconds; a leap
  second is the second before it with a fraction of one second or more;
* `Instant.ofNanos`     the instant so many nanoseconds after 1970;
* `Instant.elapsed`     seconds from one instant to another, never negative, rounded to four places.
-/

namespace QueryDesk

/-- the first second of the year -262143 -/
def Instant.earliest : Int := -8334601228800
/-- the last second of the year 262142 -/
def Instant.latest : Int := 8210266876799

structure Instant where
  seconds : Int
  nanos : Nat
  inRange : Instant.earliest ≤ seconds ∧ seconds ≤ Instant.latest
  nanos_lt : nanos < 1000000000 ∨ (seconds % 60 = 59 ∧ nanos < 2000000000)
deriving DecidableEq

namespace Instant

def of? (seconds : Int) (nanos : Nat) : Option Instant :=
  if h : (earliest ≤ seconds ∧ seconds ≤ latest) ∧
      (nanos < 1000000000 ∨ (seconds % 60 = 59 ∧ nanos < 2000000000)) then
    some ⟨seconds, nanos, h.1, h.2⟩
  else none

/-- nanoseconds since 1970 -/
def toNanos (t : Instant) : Int := t.seconds * 1000000000 + t.nanos

/-- the instant so many nanoseconds after 1970, at the ends of time when it lies beyond them -/
def ofNanos (n : Int) : Instant :=
  ⟨max earliest (min latest (n / 1000000000)), (n % 1000000000).toNat,
    by constructor
       · exact Int.le_max_left _ _
       · exact Int.max_le.2 ⟨by decide, Int.min_le_left _ _⟩,
    Or.inl (by omega)⟩

/-- 2024-01-01T00:00:00Z -/
def newYear2024 : Instant := ofNanos (1704067200 * 1000000000)

/-! ## elapsed time -/

/-- whole microseconds from one instant to another, none when it is the earlier one -/
def microseconds (earlier later : Instant) : Nat := ((later.toNanos - earlier.toNanos) / 1000).toNat

/-- seconds between two instants: the hundreds of microseconds are rounded upwards from a half -/
def elapsed (earlier later : Instant) : Binary64 :=
  let hundreds := (Binary64.ofNat (microseconds earlier later)).div (Binary64.ofNat 100)
  (Binary64.ofNat hundreds.floorHalfUp).div (Binary64.ofNat 10000)

end Instant

end QueryDesk
