import QueryDesk.Number.Digits

/-!
# Addresses of hosts

* `Ipv4.parse?`, `Ipv4.text`   four numbers, or fewer of which the last is larger, in base 8, 10
  or 16;
* `Ipv6.parse?`, `Ipv6.text`   eight pieces, the first longest run of zeros written as `::`.
-/

namespace QueryDesk

/-! ## IPv4 -/

namespace Ipv4

/-- a number in the base that its first characters say, `none` if it is no number -/
def number? (cs : List Char) : Option Nat :=
  let read (base : Nat) (ds : List Char) : Option Nat :=
    ds.foldlM (fun n c => do
      let v ← Hex.val? c
      if v < base then some (n * base + v) else none) 0
  match cs with
  | [] => none
  | '0' :: 'x' :: ds | '0' :: 'X' :: ds => read 16 ds
  | '0' :: d :: ds => read 8 (d :: ds)
  | ds => read 10 ds

/-- the last part of a name, a dot at the end apart -/
def lastPart (name : List Char) : List Char :=
  match (List.splitOn '.' name).reverse with
  | [] => []
  | [part] => part
  | [] :: part :: _ => part
  | part :: _ => part

/-- a name is an address if its last part is a number -/
def isAddress (name : List Char) : Bool :=
  let part := lastPart name
  (part ≠ [] && part.all Char.isDigit) || (number? part).isSome

def parts (name : List Char) : List (List Char) :=
  let ps := List.splitOn '.' name
  if ps.getLast? = some [] then ps.dropLast else ps

/-- the address: the last number fills the bytes that the others leave -/
def parse? (name : List Char) : Option Nat := do
  let ps := parts name
  if 4 < ps.length then none
  let numbers ← ps.mapM number?
  let last ← numbers.getLast?
  let first := numbers.dropLast
  if last < Nat.pow 256 (4 - first.length) ∧ first.all (· < 256) then
    some (first.zipIdx.foldl (fun n (b, i) => n + b * Nat.pow 256 (3 - i)) last)
  else none

def text (address : Nat) : List Char :=
  let byte (i : Nat) : List Char := Digits.digits (address / Nat.pow 256 i % 256)
  byte 3 ++ '.' :: byte 2 ++ '.' :: byte 1 ++ '.' :: byte 0

end Ipv4

/-! ## IPv6 -/

namespace Ipv6

/-- up to four hexadecimal digits -/
def piece? (cs : List Char) : Option Nat :=
  if cs = [] ∨ 4 < cs.length then none
  else cs.foldlM (fun n c => (Hex.val? c).map (16 * n + ·)) 0

/-- a byte in decimal, without a zero in front -/
def byte? (cs : List Char) : Option Nat :=
  let isNumber := cs ≠ [] ∧ cs.length ≤ 3 ∧ cs.all Digits.isDigit
    ∧ (cs.length = 1 ∨ cs.head? ≠ some '0')
  if isNumber ∧ Digits.value cs < 256 then some (Digits.value cs) else none

/-- two pieces written as four bytes -/
def dotted? (cs : List Char) : Option (List Nat) := do
  match ← (List.splitOn '.' cs).mapM byte? with
  | [a, b, c, d] => some [256 * a + b, 256 * c + d]
  | _ => none

/-- pieces with a colon between them; the last two may be dotted where `ends` -/
def pieces? (ends : Bool) (cs : List Char) : Option (List Nat) :=
  if cs = [] then some []
  else
    let ps := List.splitOn ':' cs
    match ps.getLast? with
    | none => none
    | some last =>
      if ends ∧ '.' ∈ last then do return (← ps.dropLast.mapM piece?) ++ (← dotted? last)
      else ps.mapM piece?

/-- what stands before and behind the first double colon -/
def cut? : List Char → Option (List Char × List Char)
  | ':' :: ':' :: rest => some ([], rest)
  | c :: rest => (cut? rest).map fun (left, right) => (c :: left, right)
  | [] => none

/-- a double colon stands for one or more pieces that are zero -/
def parse? (cs : List Char) : Option (List Nat) :=
  match cut? cs with
  | none => do
    let ps ← pieces? true cs
    if ps.length = 8 then some ps else none
  | some (left, right) => do
    let ls ← pieces? false left
    let rs ← pieces? true right
    if ls.length + rs.length < 8 then
      some (ls ++ List.replicate (8 - ls.length - rs.length) 0 ++ rs)
    else none

def hexDigits (n : Nat) : List Char :=
  if n < 16 then [Hex.lower n]
  else if n < 256 then [Hex.lower (n / 16), Hex.lower (n % 16)]
  else if n < 4096 then [Hex.lower (n / 256), Hex.lower (n / 16 % 16), Hex.lower (n % 16)]
  else
    [Hex.lower (n / 4096 % 16), Hex.lower (n / 256 % 16), Hex.lower (n / 16 % 16),
      Hex.lower (n % 16)]

def zeroRun (ps : List Nat) : Nat := (ps.takeWhile (· = 0)).length

/-- where the longest run of zeros begins, the first of several, and its length -/
def longestRun (ps : List Nat) : Nat × Nat :=
  (List.range ps.length).foldl (fun best i =>
    let n := zeroRun (ps.drop i)
    if best.2 < n then (i, n) else best) (0, 0)

def join (ps : List Nat) : List Char := List.intercalate [':'] (ps.map hexDigits)

def text (ps : List Nat) : List Char :=
  let (start, run) := longestRun ps
  if run < 2 then join ps else join (ps.take start) ++ [':', ':'] ++ join (ps.drop (start + run))

end Ipv6

end QueryDesk
