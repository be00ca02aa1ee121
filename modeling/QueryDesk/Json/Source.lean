import QueryDesk.Json.Number
import QueryDesk.Number.Digits

/-!
# JSON as it is written

`Source.read` turns a text into the tree of its brackets, one character at a time: `step` takes the
state of the reading over a character, and a text is read when its last character leaves a whole
value.  The tree keeps what a later reading may refuse or ignore:

* members with the same key, all of them;
* numbers as they are spelt, however big;
* strings as `Piece`s, half surrogate pairs too (`Piece.text?` refuses those).

Nesting has no limit here.
-/

namespace QueryDesk.Json

/-! ## strings -/

/-- a character, or half of one, written as an escape -/
inductive Piece where
  | char (c : Char)
  | surrogate (unit : Nat)
deriving DecidableEq

/-- the piece that four hexadecimal digits stand for -/
def Piece.ofUnit (n : Nat) : Piece :=
  if 0xD800 ≤ n ∧ n < 0xE000 then surrogate n else char (Char.ofNat n)

/-- the character of two halves -/
def Piece.join (high low : Nat) : Char :=
  Char.ofNat (0x10000 + (high - 0xD800) * 0x400 + (low - 0xDC00))

/-- the characters of a string; a half without its other half is no character -/
def Piece.chars? : List Piece → Option (List Char)
  | [] => some []
  | char c :: rest => (chars? rest).map (c :: ·)
  | surrogate high :: surrogate low :: rest =>
    if high < 0xDC00 ∧ 0xDC00 ≤ low then (chars? rest).map (join high low :: ·) else none
  | surrogate _ :: _ => none

def Piece.text? (ps : List Piece) : Option String := (chars? ps).map String.ofList

theorem Piece.chars?_map_char (cs : List Char) : chars? (cs.map char) = some cs := by
  induction cs with
  | nil => rfl
  | cons c cs ih => simp [chars?, ih]

/-! ## the tree -/

inductive Source where
  | null
  | bool (b : Bool)
  | number (n : Numeral)
  | string (pieces : List Piece)
  | array (items : List Source)
  | object (members : List (List Piece × Source))

namespace Source

instance : Inhabited Source := ⟨null⟩

/-! ## the state of a reading -/

/-- a bracket that is still open, with what it holds so far, the newest first -/
inductive Frame where
  | array (items : List Source)
  | object (members : List (List Piece × Source)) (key : List Piece)

/-- how far an escape has come -/
inductive Escape where
  | plain
  | slash
  | unit (seen : Nat) (value : Nat)

/-- the part of a number that was read last -/
inductive Part where
  | sign | zero | whole | point | fraction | mark | exponentSign | exponent

inductive Mode where
  /-- a value must follow -/
  | value
  /-- a value or the end of the array -/
  | firstItem
  /-- a key or the end of the object -/
  | firstKey
  | key
  | colon
  /-- behind a value inside a bracket -/
  | next
  | text (isKey : Bool) (pieces : List Piece) (escape : Escape)
  | number (part : Part) (n : Numeral)
  | word (left : List Char) (value : Source)
  | done (value : Source)

structure State where
  mode : Mode
  stack : List Frame

def start : State := ⟨.value, []⟩

/-- a value is complete -/
def deliver (v : Source) : List Frame → State
  | [] => ⟨.done v, []⟩
  | .array items :: stack => ⟨.next, .array (v :: items) :: stack⟩
  | .object members key :: stack => ⟨.next, .object ((key, v) :: members) [] :: stack⟩

/-- a string is complete -/
def deliverText (isKey : Bool) (pieces : List Piece) (stack : List Frame) : Option State :=
  if isKey then
    match stack with
    | .object members _ :: stack => some ⟨.colon, .object members pieces.reverse :: stack⟩
    | _ => none
  else some (deliver (.string pieces.reverse) stack)

def isBlank (c : Char) : Bool := c = ' ' || c = '\n' || c = '\t' || c = '\r'

/-! ## numbers -/

namespace Part

/-- a number may end here -/
def isEnd : Part → Bool
  | zero | whole | fraction | exponent => true
  | _ => false

/-- one more character of a number; digits gather in front -/
def extend? (n : Numeral) (c : Char) : Part → Option (Part × Numeral)
  | sign =>
    if c = '0' then some (zero, { n with whole := [c] })
    else if Digits.isDigit c then some (whole, { n with whole := [c] })
    else none
  | zero =>
    if c = '.' then some (point, n)
    else if c = 'e' ∨ c = 'E' then some (mark, n)
    else none
  | whole =>
    if Digits.isDigit c then some (whole, { n with whole := c :: n.whole })
    else if c = '.' then some (point, n)
    else if c = 'e' ∨ c = 'E' then some (mark, n)
    else none
  | point =>
    if Digits.isDigit c then some (fraction, { n with fraction := [c] }) else none
  | fraction =>
    if Digits.isDigit c then some (fraction, { n with fraction := c :: n.fraction })
    else if c = 'e' ∨ c = 'E' then some (mark, n)
    else none
  | mark =>
    if c = '+' then some (exponentSign, { n with exponent := some (false, []) })
    else if c = '-' then some (exponentSign, { n with exponent := some (true, []) })
    else if Digits.isDigit c then some (exponent, { n with exponent := some (false, [c]) })
    else none
  | exponentSign =>
    if Digits.isDigit c then
      some (exponent, { n with exponent := n.exponent.map fun e => (e.1, [c]) })
    else none
  | exponent =>
    if Digits.isDigit c then
      some (exponent, { n with exponent := n.exponent.map fun e => (e.1, c :: e.2) })
    else none

end Part

/-- the numeral whose digits were gathered in front -/
def settle (n : Numeral) : Source :=
  number ⟨n.neg, n.whole.reverse, n.fraction.reverse, n.exponent.map fun e => (e.1, e.2.reverse)⟩

/-! ## one character -/

/-- the first character of a value -/
def stepValue (stack : List Frame) (c : Char) : Option State :=
  if c = '"' then some ⟨.text false [] .plain, stack⟩
  else if c = '[' then some ⟨.firstItem, .array [] :: stack⟩
  else if c = '\x7b' then some ⟨.firstKey, .object [] [] :: stack⟩
  else if c = 't' then some ⟨.word ['r', 'u', 'e'] (bool true), stack⟩
  else if c = 'f' then some ⟨.word ['a', 'l', 's', 'e'] (bool false), stack⟩
  else if c = 'n' then some ⟨.word ['u', 'l', 'l'] null, stack⟩
  else if c = '-' then some ⟨.number .sign ⟨true, [], [], none⟩, stack⟩
  else (Part.sign.extend? ⟨false, [], [], none⟩ c).map fun (part, n) => ⟨.number part n, stack⟩

/-- a character behind a value -/
def stepNext (state : State) (c : Char) : Option State :=
  if isBlank c then some state
  else match state.mode, state.stack with
    | .next, .array items :: stack =>
      if c = ',' then some ⟨.value, state.stack⟩
      else if c = ']' then some (deliver (.array items.reverse) stack)
      else none
    | .next, .object members _ :: stack =>
      if c = ',' then some ⟨.key, state.stack⟩
      else if c = '\x7d' then some (deliver (.object members.reverse) stack)
      else none
    | _, _ => none

/-- the character that a letter behind a backslash stands for -/
def unescape? (c : Char) : Option Char :=
  if c = '"' ∨ c = '\\' ∨ c = '/' then some c
  else if c = 'b' then some '\x08'
  else if c = 'f' then some '\x0c'
  else if c = 'n' then some '\n'
  else if c = 'r' then some '\r'
  else if c = 't' then some '\t'
  else none

/-- a character inside a string -/
def stepText (isKey : Bool) (pieces : List Piece) (stack : List Frame) (c : Char) :
    Escape → Option State
  | .plain =>
    if c = '"' then deliverText isKey pieces stack
    else if c = '\\' then some ⟨.text isKey pieces .slash, stack⟩
    else if c.toNat < 0x20 then none
    else some ⟨.text isKey (.char c :: pieces) .plain, stack⟩
  | .slash =>
    if c = 'u' then some ⟨.text isKey pieces (.unit 0 0), stack⟩
    else (unescape? c).map fun c => ⟨.text isKey (.char c :: pieces) .plain, stack⟩
  | .unit seen value => do
    let value := 16 * value + (← Hex.val? c)
    if seen = 3 then some ⟨.text isKey (Piece.ofUnit value :: pieces) .plain, stack⟩
    else some ⟨.text isKey pieces (.unit (seen + 1) value), stack⟩

def step (state : State) (c : Char) : Option State :=
  let stack := state.stack
  match state.mode with
  | .value => if isBlank c then some state else stepValue stack c
  | .firstItem =>
    if isBlank c then some state
    else if c = ']' then some (deliver (.array []) stack.tail)
    else stepValue stack c
  | .firstKey =>
    if isBlank c then some state
    else if c = '"' then some ⟨.text true [] .plain, stack⟩
    else if c = '\x7d' then some (deliver (.object []) stack.tail)
    else none
  | .key =>
    if isBlank c then some state
    else if c = '"' then some ⟨.text true [] .plain, stack⟩
    else none
  | .colon =>
    if isBlank c then some state
    else if c = ':' then some ⟨.value, stack⟩
    else none
  | .next | .done _ => stepNext state c
  | .text isKey pieces escape => stepText isKey pieces stack c escape
  | .number part n =>
    match part.extend? n c with
    | some (part, n) => some ⟨.number part n, stack⟩
    | none => if part.isEnd then stepNext (deliver (settle n) stack) c else none
  | .word left v =>
    match left with
    | [] => none
    | l :: left =>
      if c = l then some (if left = [] then deliver v stack else ⟨.word left v, stack⟩) else none

/-- what a reading that ends here has read -/
def finish (state : State) : Option Source :=
  match state.mode, state.stack with
  | .done v, _ => some v
  | .number part n, [] => if part.isEnd then some (settle n) else none
  | _, _ => none

def readChars (cs : List Char) : Option Source := cs.foldlM step start >>= finish

/-- the value written in a text, nothing but blanks around it -/
def read (text : String) : Option Source := readChars text.toList

end Source

end QueryDesk.Json
