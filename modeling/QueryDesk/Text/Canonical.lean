import QueryDesk.Text.CanonicalTable

/-!
# Canonical composition

Two texts that look alike for all purposes have one composed form: characters are taken apart, marks
behind a character are sorted by their classes, and what can be put together again is.

* `decompose`   the parts of a character;
* `order`       marks sorted by class, those of one class in the order in which they stand;
* `compose`     parts put together;
* `form`        the composed form of a text, `isForm` a text that is its own.

ASCII has no parts and stays as it is.
-/

namespace QueryDesk.Text.Canonical

/-- the class of a mark, nought for a character that begins anew -/
def rank (c : Char) : Nat := classes.number c

/-! ## syllables of Hangul

A syllable is a leading consonant, a vowel and perhaps a trailing consonant, all by number. -/

def syllable? (c : Char) : Option Nat :=
  if 0xAC00 ≤ c.toNat ∧ c.toNat < 0xAC00 + 11172 then some (c.toNat - 0xAC00) else none

def letters (n : Nat) : List Char :=
  let trailing := if n % 28 = 0 then [] else [Char.ofNat (0x11A7 + n % 28)]
  Char.ofNat (0x1100 + n / 588) :: Char.ofNat (0x1161 + n % 588 / 28) :: trailing

def joinSyllable? (a b : Char) : Option Char :=
  if 0x1100 ≤ a.toNat ∧ a.toNat < 0x1113 ∧ 0x1161 ≤ b.toNat ∧ b.toNat < 0x1176 then
    some (Char.ofNat (0xAC00 + (a.toNat - 0x1100) * 588 + (b.toNat - 0x1161) * 28))
  else match syllable? a with
    | some n =>
      if n % 28 = 0 ∧ 0x11A7 < b.toNat ∧ b.toNat < 0x11C3 then
        some (Char.ofNat (a.toNat + (b.toNat - 0x11A7)))
      else none
    | none => none

/-! ## parts -/

def decompose (c : Char) : List Char :=
  match syllable? c with
  | some n => letters n
  | none => ((composed.chars? c).or (replaced.chars? c)).getD [c]

/-! ## order -/

/-- a character in front of a text in order; a mark goes behind marks of lower classes -/
def place (c : Char) : List Char → List Char
  | [] => [c]
  | d :: rest => if rank d ≠ 0 ∧ rank d < rank c then d :: place c rest else c :: d :: rest

def order (cs : List Char) : List Char := cs.foldr place []

/-! ## composition -/

/-- the character whose parts are those of `a` and `b` -/
def join? (a b : Char) : Option Char :=
  match joinSyllable? a b with
  | some c => some c
  | none => composed.ofImage? ((decompose a ++ [b]).map Char.toNat)

/-- a text so far, its last character that begins anew, and the marks behind that -/
structure Draft where
  settled : List Char
  start : Option Char
  marks : List Char

namespace Draft

def text (d : Draft) : List Char := d.settled ++ d.start.toList ++ d.marks

/-- a mark of the same class or a higher one stands before `c`, so that it cannot reach the start -/
def blocks (d : Draft) (c : Char) : Bool :=
  match d.marks.getLast? with
  | none => false
  | some m => rank c ≤ rank m

/-- one more character that stays as it is -/
def append (d : Draft) (c : Char) : Draft :=
  if rank c = 0 then ⟨d.text, some c, []⟩ else { d with marks := d.marks ++ [c] }

def push (d : Draft) (c : Char) : Draft :=
  match d.start.bind (join? · c) with
  | some joined => if d.blocks c then d.append c else { d with start := some joined }
  | none => d.append c

end Draft

def compose (cs : List Char) : List Char := (cs.foldl Draft.push ⟨[], none, []⟩).text

/-! ## forms -/

def form (cs : List Char) : List Char :=
  if cs.all (·.toNat < 0x80) then cs else compose (order (cs.flatMap decompose))

def isForm (cs : List Char) : Bool := form cs = cs

end QueryDesk.Text.Canonical
