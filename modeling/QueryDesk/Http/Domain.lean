import QueryDesk.Http.NameTable
import QueryDesk.Text.Direction
import QueryDesk.Text.Joiner
import QueryDesk.Text.Punycode

/-!
# Names of hosts

`Domain.ascii?` takes the name of a host as it is written to the form that is looked up: ASCII, in
lower case, without characters that may not stand in a name.  A name has parts with dots between
them; a part that is not ASCII is looked up by its Punycode, behind `xn--`.

* `canonical?`   the characters that a written character stands for;
* `part?`        the characters that a part stands for, if they may make up a part;
* `ascii?`       the form of a name.
-/

namespace QueryDesk.Domain

open Text

def isAscii (c : Char) : Bool := c.toNat < 0x80

/-- characters of ASCII that may not stand in a name -/
def isForbidden (c : Char) : Bool :=
  c.toNat ≤ 0x20 || c.toNat = 0x7F ||
    c ∈ ['#', '%', '/', ':', '<', '>', '?', '@', '[', '\\', ']', '^', '\x60', '\x7b', '|', '\x7d']

def codeMark : List Char := ['x', 'n', '-', '-']

/-! ## characters -/

/-- the characters that a written character stands for -/
def canonical? (c : Char) : Option (List Char) :=
  if isAscii c then some [c.toLower]
  else if dropped.has c then some []
  else if refused.has c then none
  else some ((variants.chars? c).getD [c])

/-! ## parts -/

/-- characters that may make up a part: in composed form, each standing for itself, no mark in
front -/
def isPart (cs : List Char) : Bool :=
  Canonical.isForm cs && cs.all (fun c => canonical? c = some [c]) && !cs.head?.any marks.has
    && Joiner.fit cs

/-- the characters that a part stands for, if they may make up a part -/
def part? (cs : List Char) : Option (List Char) := do
  let cs ← if cs.take 4 = codeMark then
      (Punycode.decode? (cs.drop 4)).filter fun decoded => !decoded.all isAscii
    else some cs
  if isPart cs then some cs else none

def encodePart (cs : List Char) : List Char :=
  if cs.all isAscii then cs else codeMark ++ Punycode.encode cs

/-! ## names -/

/-- the parts of a name -/
def parts? (name : List Char) : Option (List (List Char)) := do
  let cs ← name.mapM canonical?
  (List.splitOn '.' (Canonical.form cs.flatten)).mapM part?

/-- nothing is left of what was written but the case of letters -/
def isPlain (name : List Char) : Bool :=
  name.all isAscii &&
    (List.splitOn '.' name).all fun part => (part.take 4).map Char.toLower ≠ codeMark

/-- the form of a name; where one part is written from right to left, each keeps its place -/
def ascii? (name : List Char) : Option (List Char) := do
  let form ← if isPlain name then some (name.map Char.toLower) else do
    let parts ← parts? name
    if parts.any Direction.turns && !parts.all Direction.keeps then none
    else some (List.intercalate ['.'] (parts.map encodePart))
  if form.any isForbidden then none else some form

end QueryDesk.Domain
