/-!
# Characters and bytes

* `Text.isBlank`          characters with the Unicode property `White_Space`;
* `Text.upper`            the full upper-case form of a character, as far as ASCII letters take part
  in it;
* `Text.startsWithWord`   a text begins with a word, whatever its case;
* `Utf8.State`            no character has begun, or one has, of which some bytes are to come;
* `Utf8.step`             a state over a byte, with the characters that are complete by then;
* `Base64.encode`         any bytes as letters, digits, `+` and `/`.

`Utf8.decode` reads bytes that may be no text: where a character breaks off, or a byte cannot begin
one, the text has a replacement character.  What follows is read afresh.
-/

namespace QueryDesk.Text

/-! ## blanks -/

def isBlank (c : Char) : Bool :=
  let n := c.toNat
  (9 ≤ n && n ≤ 13) || n == 0x20 || n == 0x85 || n == 0xA0 || n == 0x1680 ||
    (0x2000 ≤ n && n ≤ 0x200A) || n == 0x2028 || n == 0x2029 || n == 0x202F || n == 0x205F ||
    n == 0x3000

def trimLeft (cs : List Char) : List Char := cs.dropWhile isBlank

/-! ## capitals -/

/-- characters outside ASCII whose upper-case form has ASCII letters -/
def upperTable : List (Char × List Char) :=
  [('\u0131', ['I']), ('\u017f', ['S']), ('\u00df', ['S', 'S']), ('\u0149', ['\u02bc', 'N']),
    ('\u01f0', ['J', '\u030c']), ('\u1e96', ['H', '\u0331']), ('\u1e97', ['T', '\u0308']),
    ('\u1e98', ['W', '\u030a']), ('\u1e99', ['Y', '\u030a']), ('\u1e9a', ['A', '\u02be']),
    ('\ufb00', ['F', 'F']), ('\ufb01', ['F', 'I']), ('\ufb02', ['F', 'L']),
    ('\ufb03', ['F', 'F', 'I']), ('\ufb04', ['F', 'F', 'L']), ('\ufb05', ['S', 'T']),
    ('\ufb06', ['S', 'T'])]

def upper (c : Char) : List Char := (upperTable.lookup c).getD [c.toUpper]

/-- the upper-case form of a text begins with an ASCII word -/
def startsWithWord (word : String) (cs : List Char) : Bool :=
  word.toList.isPrefixOf ((cs.take word.length).flatMap upper)

end QueryDesk.Text

namespace QueryDesk.Utf8

def replacement : Char := '\ufffd'

/-- a character of which some bytes have come -/
structure Begun where
  /-- the bits so far -/
  bits : Nat
  /-- bytes to come, after the next one -/
  left : Nat
  /-- the bounds of the next byte -/
  low : Nat
  high : Nat

abbrev State := Option Begun

/-- the state after the first byte of a character, and the character if that is all of it -/
def first (b : Nat) : State × List Char :=
  if b < 0x80 then (none, [Char.ofNat b])
  else if b < 0xC2 then (none, [replacement])
  else if b < 0xE0 then (some ⟨b - 0xC0, 0, 0x80, 0xBF⟩, [])
  else if b < 0xF0 then
    (some ⟨b - 0xE0, 1, if b = 0xE0 then 0xA0 else 0x80, if b = 0xED then 0x9F else 0xBF⟩, [])
  else if b < 0xF5 then
    (some ⟨b - 0xF0, 2, if b = 0xF0 then 0x90 else 0x80, if b = 0xF4 then 0x8F else 0xBF⟩, [])
  else (none, [replacement])

def step : State → Nat → State × List Char
  | none, b => first b
  | some begun, b =>
    if begun.low ≤ b ∧ b ≤ begun.high then
      let bits := 64 * begun.bits + (b - 0x80)
      match begun.left with
      | 0 => (none, [Char.ofNat bits])
      | left + 1 => (some ⟨bits, left, 0x80, 0xBF⟩, [])
    else
      let (state, chars) := first b
      (state, replacement :: chars)

/-- the characters of the bytes that follow -/
def run : State → List UInt8 → List Char
  | none, [] => []
  | some _, [] => [replacement]
  | state, b :: rest =>
    let (state, chars) := step state b.toNat
    chars ++ run state rest

def decode (bytes : ByteArray) : String := String.ofList (run none bytes.toList)

end QueryDesk.Utf8

namespace QueryDesk.Base64

/-- the character of six bits -/
def char (n : Nat) : Char :=
  if n < 26 then Char.ofNat (65 + n)
  else if n < 52 then Char.ofNat (71 + n)
  else if n < 62 then Char.ofNat (n - 4)
  else if n = 62 then '+' else '/'

/-- three bytes as four characters, with `=` where the last three are not full -/
def encode : List UInt8 → List Char
  | [] => []
  | [a] => [char (a.toNat / 4), char (a.toNat % 4 * 16), '=', '=']
  | [a, b] =>
    [char (a.toNat / 4), char (a.toNat % 4 * 16 + b.toNat / 16), char (b.toNat % 16 * 4), '=']
  | a :: b :: c :: rest =>
    char (a.toNat / 4) :: char (a.toNat % 4 * 16 + b.toNat / 16) ::
      char (b.toNat % 16 * 4 + c.toNat / 64) :: char (c.toNat % 64) :: encode rest

end QueryDesk.Base64
