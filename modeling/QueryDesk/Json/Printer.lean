import QueryDesk.Json.Basic
import QueryDesk.Number.Decimal
import QueryDesk.Number.Digits

/-!
# Writing JSON

One writer for two layouts.  A layout is the depth of the line being written, or `none` when all
stands on one line.

* `Json.compact`   no blank anywhere;
* `Json.pretty`    an item or member to a line, two blanks a level, `[]` when empty.

In strings a quote, a backslash and the characters below `U+0020` are escaped, and nothing else.
-/

namespace QueryDesk.Json

/-! ## strings -/

def escape (c : Char) : List Char :=
  if c = '"' then ['\\', '"']
  else if c = '\\' then ['\\', '\\']
  else if c = '\x08' then ['\\', 'b']
  else if c = '\t' then ['\\', 't']
  else if c = '\n' then ['\\', 'n']
  else if c = '\x0c' then ['\\', 'f']
  else if c = '\r' then ['\\', 'r']
  else if c.toNat < 0x20 then
    ['\\', 'u', '0', '0', Hex.lower (c.toNat / 16), Hex.lower (c.toNat % 16)]
  else [c]

def quoted (s : String) : List Char := '"' :: s.toList.flatMap escape ++ ['"']

/-! ## numbers -/

def Number.text : Number → List Char
  | .whole n _ => if n < 0 then '-' :: Digits.digits n.natAbs else Digits.digits n.natAbs
  | .real x => x.text

/-! ## layouts -/

abbrev Layout := Option Nat

namespace Layout

def deeper (layout : Layout) : Layout := layout.map (· + 1)

/-- what stands before an item, a member or a closing bracket -/
def newline : Layout → List Char
  | none => []
  | some depth => '\n' :: List.replicate (2 * depth) ' '

/-- what stands between a key and its value -/
def colon : Layout → List Char
  | none => [':']
  | some _ => [':', ' ']

end Layout

/-! ## values -/

mutual

def write (layout : Layout) : Json → List Char
  | null => "null".toList
  | bool true => "true".toList
  | bool false => "false".toList
  | number n => n.text
  | string s => quoted s
  | array [] => ['[', ']']
  | array (j :: rest) =>
    '[' :: layout.deeper.newline ++ write layout.deeper j ++ writeItems layout.deeper rest
      ++ layout.newline ++ [']']
  | object [] => ['\x7b', '\x7d']
  | object ((key, j) :: rest) =>
    '\x7b' :: layout.deeper.newline ++ quoted key ++ layout.colon ++ write layout.deeper j
      ++ writeMembers layout.deeper rest ++ layout.newline ++ ['\x7d']

/-- the items after the first -/
def writeItems (layout : Layout) : List Json → List Char
  | [] => []
  | j :: rest => ',' :: layout.newline ++ write layout j ++ writeItems layout rest

/-- the members after the first -/
def writeMembers (layout : Layout) : List (String × Json) → List Char
  | [] => []
  | (key, j) :: rest =>
    ',' :: layout.newline ++ quoted key ++ layout.colon ++ write layout j
      ++ writeMembers layout rest

end

def compact (j : Json) : String := String.ofList (write none j)

def pretty (j : Json) : String := String.ofList (write (some 0) j)

end QueryDesk.Json
