import QueryDesk.Time.Instant
import QueryDesk.Number.Digits
import QueryDesk.Text.Basic

/-!
# Timestamps

The form of RFC 3339, written in UTC and read generously.

* `Instant.text`     the fewest of 0, 3, 6 or 9 places that lose nothing, and `Z`; years outside
  0 to 9999 have a sign;
* `Instant.ofText?`  blanks may stand between the parts, numbers may be short, a year with a sign
  may be long, places after the ninth are dropped, any offset below a day is allowed.
-/

namespace QueryDesk.Instant

/-! ## writing -/

def yearText (year : Int) : List Char :=
  if 0 ≤ year ∧ year ≤ 9999 then Digits.padded 4 year.toNat
  else (if year < 0 then '-' else '+') :: Digits.padded 4 year.natAbs

/-- the fraction of a second, behind its point -/
def fractionText (nanos : Nat) : List Char :=
  if nanos = 0 then []
  else if nanos % 1000000 = 0 then '.' :: Digits.padded 3 (nanos / 1000000)
  else if nanos % 1000 = 0 then '.' :: Digits.padded 6 (nanos / 1000)
  else '.' :: Digits.padded 9 nanos

def chars (t : Instant) : List Char :=
  let date := Date.ofDays (t.seconds / 86400)
  let second := (t.seconds % 86400).toNat
  let leap := t.nanos / 1000000000
  yearText date.year ++ '-' :: Digits.padded 2 date.month ++ '-' :: Digits.padded 2 date.day
    ++ 'T' :: Digits.padded 2 (second / 3600) ++ ':' :: Digits.padded 2 (second / 60 % 60)
    ++ ':' :: Digits.padded 2 (second % 60 + leap) ++ fractionText (t.nanos % 1000000000) ++ ['Z']

def text (t : Instant) : String := String.ofList (chars t)

/-! ## reading -/

/-- a run of at least one digit, and of at most `most` -/
def number? (most : Nat) (cs : List Char) : Option (Nat × List Char) :=
  let ds := (cs.takeWhile Digits.isDigit).take most
  if ds = [] then none else some (Digits.value ds, cs.drop ds.length)

/-- a year: up to four digits, or a sign and any number of them -/
def year? (cs : List Char) : Option (Int × List Char) :=
  match cs with
  | '-' :: rest => (number? rest.length rest).map fun (n, rest) => (-n, rest)
  | '+' :: rest => (number? rest.length rest).map fun (n, rest) => (n, rest)
  | _ => (number? 4 cs).map fun (n, rest) => (n, rest)

/-- a separator, blanks before it -/
def mark? (c : Char) (cs : List Char) : Option (List Char) :=
  match Text.trimLeft cs with
  | d :: rest => if d = c then some rest else none
  | [] => none

/-- up to two digits, blanks before them -/
def pair? (cs : List Char) : Option (Nat × List Char) := number? 2 (Text.trimLeft cs)

/-- the fraction of a second in nanoseconds, nought when there is none -/
def fraction? : List Char → Option (Nat × List Char)
  | '.' :: rest => do
    let ds := (rest.takeWhile Digits.isDigit).take 9
    let (n, _) ← number? 9 rest
    return (n * Nat.pow 10 (9 - ds.length), rest.dropWhile Digits.isDigit)
  | cs => some (0, cs)

/-- two digits exactly -/
def twoDigits? : List Char → Option (Nat × List Char)
  | a :: b :: rest =>
    if Digits.isDigit a && Digits.isDigit b then some (Digits.value [a, b], rest) else none
  | _ => none

/-- a signed offset in seconds -/
def signedOffset? (cs : List Char) : Option (Int × List Char) := do
  let (hours, rest) ← twoDigits? cs
  let (minutes, rest) ← twoDigits? (rest.dropWhile fun c => c = ':' || Text.isBlank c)
  if minutes < 60 then some ((hours * 3600 + minutes * 60 : Nat), rest) else none

/-- the offset from UTC in seconds -/
def offset? : List Char → Option (Int × List Char)
  | 'Z' :: rest | 'z' :: rest => some (0, rest)
  | '+' :: rest => signedOffset? rest
  | '-' :: rest | '\u2212' :: rest => (signedOffset? rest).map fun (n, rest) => (-n, rest)
  | a :: b :: c :: rest =>
    if [a.toUpper, b.toUpper, c.toUpper] = ['U', 'T', 'C'] then some (0, rest) else none
  | _ => none

/-- a date and a time of day, `offset` seconds ahead of UTC; second 60 is a leap second -/
def ofParts? (date : Date) (hour minute second nanos : Nat) (offset : Int) : Option Instant :=
  let day := date.toDays * 86400
  let leap := second = 60
  let seconds := day + (hour * 3600 + minute * 60 + (if leap then 59 else second) : Nat)
  if date.valid && hour < 24 && minute < 60 && second ≤ 60 && -86400 < offset && offset < 86400
      && earliest ≤ day && day ≤ latest then
    of? (seconds - offset) (if leap then 1000000000 + nanos else nanos)
  else none

def ofChars? (cs : List Char) : Option Instant := do
  let (year, cs) ← year? (Text.trimLeft cs)
  let (month, cs) ← pair? (← mark? '-' cs)
  let (day, cs) ← pair? (← mark? '-' cs)
  let cs ← match cs with
    | c :: rest => if c = 'T' ∨ c = 't' ∨ c = ' ' then some rest else none
    | [] => none
  let (hour, cs) ← pair? cs
  let (minute, cs) ← pair? (← mark? ':' cs)
  let (second, cs) ← pair? (← mark? ':' cs)
  let (nanos, cs) ← fraction? cs
  let (offset, cs) ← offset? (Text.trimLeft cs)
  if Text.trimLeft cs = [] then ofParts? ⟨year, month, day⟩ hour minute second nanos offset
  else none

def ofText? (s : String) : Option Instant := ofChars? s.toList

end QueryDesk.Instant
