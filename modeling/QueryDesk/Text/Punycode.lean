/-!
# Punycode

A text is written in ASCII: first its ASCII characters, then, behind a dash, where to put the
others. These are put in one after the other, in the order of their code points.  The place of
each is a number, counted on from the place before it, with digits in base 36 whose weights follow
a bias.

* `encode`            the ASCII form of a text;
* `decode?`           the text of an ASCII form;
* `digitVal?_digit`   a digit is read back.
-/

namespace QueryDesk.Punycode

/-! ## digits -/

/-- letters, then the ten digits -/
def digit (n : Nat) : Char := if n < 26 then Char.ofNat (97 + n) else Char.ofNat (22 + n)

def digitVal? (c : Char) : Option Nat :=
  if 'a' ≤ c ∧ c ≤ 'z' then some (c.toNat - 97)
  else if 'A' ≤ c ∧ c ≤ 'Z' then some (c.toNat - 65)
  else if '0' ≤ c ∧ c ≤ '9' then some (c.toNat - 22)
  else none

private theorem digitVal?_digit_all : ∀ n, n < 36 → digitVal? (digit n) = some n := by decide

theorem digitVal?_digit {n : Nat} (h : n < 36) : digitVal? (digit n) = some n :=
  digitVal?_digit_all n h

/-! ## the bias -/

/-- a digit below this one ends a number; `place` counts up by 36 from digit to digit -/
def threshold (place bias : Nat) : Nat := max 1 (min 26 (place - bias))

theorem threshold_pos (place bias : Nat) : 1 ≤ threshold place bias := Nat.le_max_left _ _

theorem threshold_le (place bias : Nat) : threshold place bias ≤ 26 :=
  Nat.max_le.2 ⟨by decide, Nat.min_le_left _ _⟩

/-- divided by 35 until at most 455, and 36 for each time -/
def scaled (delta : Nat) : Nat × Nat :=
  if 455 < delta then
    let (rest, place) := scaled (delta / 35)
    (rest, place + 36)
  else (delta, 0)
termination_by delta

/-- the bias after a number, the text then having `size` characters -/
def bias (delta size : Nat) (isFirst : Bool) : Nat :=
  let delta := if isFirst then delta / 700 else delta / 2
  let (rest, place) := scaled (delta + delta / size)
  place + 36 * rest / (rest + 38)

/-! ## numbers -/

def writeNumber (bias place n : Nat) : List Char :=
  let t := threshold place bias
  if n < t then [digit n]
  else digit (t + (n - t) % (36 - t)) :: writeNumber bias (place + 36) ((n - t) / (36 - t))
termination_by n
decreasing_by
  have := threshold_pos place bias
  have := Nat.div_le_self (n - threshold place bias) (36 - threshold place bias)
  omega

/-- a number, its next digit having the given weight, and what follows it -/
def readNumber (bias : Nat) : (place weight : Nat) → List Char → Option (Nat × List Char)
  | _, _, [] => none
  | place, weight, c :: rest => do
    let d ← digitVal? c
    let t := threshold place bias
    if d < t then some (d * weight, rest)
    else
      let (n, rest) ← readNumber bias (place + 36) (weight * (36 - t)) rest
      some (d * weight + n, rest)

theorem length_readNumber {bias place weight n : Nat} {cs rest : List Char}
    (h : readNumber bias place weight cs = some (n, rest)) : rest.length < cs.length := by
  induction cs generalizing place weight n rest with
  | nil => simp [readNumber] at h
  | cons c cs ih =>
    rw [readNumber] at h
    obtain ⟨d, _, h⟩ := Option.bind_eq_some_iff.1 h
    dsimp only at h
    split at h
    · simp only [Option.some.injEq, Prod.mk.injEq] at h
      simp [← h.2]
    · obtain ⟨⟨m, r⟩, hr, h⟩ := Option.bind_eq_some_iff.1 h
      simp only [Option.some.injEq, Prod.mk.injEq] at h
      have := ih hr
      simp only [List.length_cons, ← h.2]
      omega

/-! ## writing -/

def isBasic (c : Char) : Bool := c.toNat < 0x80

/-- a form so far -/
structure Draft where
  out : List Char
  /-- places passed since the last character that was put in -/
  delta : Nat
  bias : Nat
  /-- characters that are in their places -/
  size : Nat
  isFirst : Bool

namespace Draft

/-- the place of a character is passed, or the character `n` is put in there -/
def pass (n : Nat) (d : Draft) (c : Char) : Draft :=
  if c.toNat < n then { d with delta := d.delta + 1 }
  else if c.toNat = n then
    ⟨d.out ++ writeNumber d.bias 36 d.delta, 0, Punycode.bias d.delta (d.size + 1) d.isFirst,
      d.size + 1, false⟩
  else d

/-- the characters `n` of a text are put in, those from `low` on being next -/
def putIn (cs : List Char) (low n : Nat) (d : Draft) : Draft :=
  cs.foldl (pass n) { d with delta := d.delta + (n - low) * (d.size + 1) }

/-- characters are put in, in the order of their code points -/
def putAll (cs : List Char) : (low : Nat) → List Nat → Draft → Draft
  | _, [], d => d
  | low, n :: rest, d =>
    let d := putIn cs low n d
    putAll cs (n + 1) rest { d with delta := d.delta + 1 }

end Draft

def encode (cs : List Char) : List Char :=
  let basic := cs.filter isBasic
  let others := ((cs.filter (!isBasic ·)).map Char.toNat).mergeSort.eraseDups
  let start := if basic = [] then [] else basic ++ ['-']
  (Draft.putAll cs 0x80 others ⟨start, 0, 72, basic.length, true⟩).out

/-! ## reading -/

/-- characters are put into `cs`; `n` is the last one, `i` its place and all the places before it -/
def insertAll (bias n i : Nat) (isFirst : Bool) (cs code : List Char) : Option (List Char) :=
  match code with
  | [] => some cs
  | c :: code =>
    match _h : readNumber bias 36 1 (c :: code) with
    | none => none
    | some (delta, rest) =>
      let size := cs.length + 1
      let n := n + (i + delta) / size
      let i := (i + delta) % size
      if n < 0xD800 ∨ (0xDFFF < n ∧ n < 0x110000) then
        insertAll (Punycode.bias delta size isFirst) n (i + 1) false
          (cs.insertIdx i (Char.ofNat n)) rest
      else none
termination_by code.length
decreasing_by exact length_readNumber _h

/-- what stands before the last dash, and behind it; a dash in front is no dash -/
def splitDash (cs : List Char) : List Char × List Char :=
  match cs.reverse.span (· ≠ '-') with
  | (_, []) => ([], cs)
  | (_, [_]) => ([], cs)
  | (code, _ :: basic) => (basic.reverse, code.reverse)

def decode? (cs : List Char) : Option (List Char) :=
  let (basic, code) := splitDash cs
  if basic.all isBasic then insertAll 72 0x80 0 true basic code else none

end QueryDesk.Punycode
