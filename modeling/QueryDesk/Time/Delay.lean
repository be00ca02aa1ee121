import QueryDesk.Number.Quantity

/-!
# Delays

A `Delay` is a time to wait, in nanoseconds; its whole seconds fit into 64 bits.

* `Delay.ofSeconds`   a number of seconds, rounded to the nearest nanosecond, the even one of two.
-/

namespace QueryDesk

structure Delay where
  nanos : Nat
  fits : nanos < 18446744073709551616000000000
deriving DecidableEq

namespace Delay

/-- why a number of seconds is no delay -/
inductive Fault where
  | negative
  | tooBig
deriving DecidableEq

def Fault.text : Fault → String
  | negative => "cannot convert float seconds to Duration: value is negative"
  | tooBig => "cannot convert float seconds to Duration: value is either too big or NaN"

/-- whole seconds -/
def seconds (d : Delay) : Nat := d.nanos / 1000000000

/-- nanoseconds past the last whole second -/
def rest (d : Delay) : Nat := d.nanos % 1000000000

def ofNanos (nanos : Nat) : Except Fault Delay :=
  if h : nanos < 18446744073709551616000000000 then .ok ⟨nanos, h⟩ else .error .tooBig

/-- below zero there is no delay; a zero has no sign -/
def ofSeconds : Quantity → Except Fault Delay
  | .finite x =>
    if x.neg ∧ !x.isZero then .error .negative
    else ofNanos (Binary64.roundHalfEven (Binary64.units x.rank * 1000000000) Binary64.one)
  | .infinite true => .error .negative
  | .infinite false => .error .tooBig
  | .undefined => .error .tooBig

end Delay

end QueryDesk
