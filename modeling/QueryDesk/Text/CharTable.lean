import QueryDesk.Number.Digits

/-!
# Tables of characters

A `CharTable` gives some characters an image, a list of code points.  Neighbours whose images are
the same, or rise with them, share a `Stretch`.

* `find?`, `has`   the image of a character, and whether it has one;
* `ofLines`        a table from its written form: items with a blank between them, each the first
  character of a stretch, a mark with the count when there are more, and the image behind a colon.

All numbers are hexadecimal.  Behind `=` stands the count of neighbours with one image, behind `+`
that of neighbours whose images rise by one, behind `*` that of every second character, images
rising by two.
-/

namespace QueryDesk.Text

/-- characters in a row, and the image of the first -/
structure Stretch where
  first : Nat
  count : Nat
  /-- from one character to the next -/
  step : Nat
  rising : Bool
  image : List Nat
deriving DecidableEq

namespace Stretch

def image? (s : Stretch) (n : Nat) : Option (List Nat) :=
  let d := n - s.first
  if s.first ≤ n ∧ d < s.count * s.step ∧ d % s.step = 0 then
    some (if s.rising then s.image.map (· + d) else s.image)
  else none

def ofMark (first : Nat) (image : List Nat) : List Char → Stretch
  | '+' :: count => ⟨first, Hex.value count, 1, true, image⟩
  | '*' :: count => ⟨first, Hex.value count, 2, true, image⟩
  | _ :: count => ⟨first, Hex.value count, 1, false, image⟩
  | [] => ⟨first, 1, 1, false, image⟩

def ofItem (item : List Char) : Stretch :=
  let (head, tail) := item.span (· ≠ ':')
  let (first, count) := head.span fun c => (Hex.val? c).isSome
  ofMark (Hex.value first) ((List.splitOn ',' (tail.drop 1)).map Hex.value) count

end Stretch

abbrev CharTable := List Stretch

namespace CharTable

def find? (t : CharTable) (c : Char) : Option (List Nat) := t.findSome? (·.image? c.toNat)

def has (t : CharTable) (c : Char) : Bool := (t.find? c).isSome

/-- the image read as characters -/
def chars? (t : CharTable) (c : Char) : Option (List Char) := (t.find? c).map (·.map Char.ofNat)

/-- the number that a character has, if it has one -/
def number (t : CharTable) (c : Char) : Nat := ((t.find? c).getD []).headD 0

/-- a character that stands first in its stretch and has this image -/
def ofImage? (t : CharTable) (image : List Nat) : Option Char :=
  (List.find? (fun s => s.image = image) t).map fun s => Char.ofNat s.first

def ofLine (line : String) : CharTable := (List.splitOn ' ' line.toList).map Stretch.ofItem

def ofLines (lines : List String) : CharTable := lines.flatMap ofLine

end CharTable

end QueryDesk.Text
