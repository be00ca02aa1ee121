/-!
# Dotted names in statements

A name is cut at the dots outside backticks, and each part is quoted unless it can stand bare.

* `split`          the parts of a dotted name;
* `isBare`         a plain word that is not reserved;
* `quote`          a part as it may stand in a statement; a part in backticks stays as it is;
* `escape`         the whole name, `escapeText` the same on strings.
-/

namespace QueryDesk.Sql.Identifier

/-- the backtick -/
def tick : Char := '\x60'

/-! ## parts -/

/-- a character in front of the first part -/
def extend (c : Char) : List (List Char) → List (List Char)
  | [] => [[c]]
  | part :: parts => (c :: part) :: parts

/-- the parts of a name, from inside or outside of backticks on -/
def split (inside : Bool) : List Char → List (List Char)
  | [] => [[]]
  | c :: cs =>
    if c = tick then extend c (split (!inside) cs)
    else if c = '.' ∧ inside = false then [] :: split inside cs
    else extend c (split inside cs)

theorem split_ne_nil (inside : Bool) (cs : List Char) : split inside cs ≠ [] := by
  induction cs generalizing inside with
  | nil => simp [split]
  | cons c cs ih =>
    have extend_ne_nil : ∀ (c : Char) (ps : List (List Char)), extend c ps ≠ [] := by
      intro c ps; cases ps <;> simp [extend]
    unfold split
    split
    · exact extend_ne_nil _ _
    · split
      · simp
      · exact extend_ne_nil _ _

/-! ## words -/

def isFirst (c : Char) : Bool := c.isAlpha || c = '_' || c = '$'
def isLater (c : Char) : Bool := isFirst c || c.isDigit

/-- an ASCII letter, then letters and digits; `_` and `$` are letters -/
def isPlain : List Char → Bool
  | [] => false
  | c :: cs => isFirst c && cs.all isLater

/-- words that look plain and are not -/
def reserved : List String :=
  ["ALL", "ALTER", "AND", "AS", "BY", "CASE", "CREATE", "DATABASE", "DEFAULT", "DELETE", "DESC",
    "DESCRIBE", "DROP", "FROM", "GROUP", "HAVING", "IN", "INDEX", "INSERT", "INTO", "JOIN", "KEY",
    "LIMIT", "NOT", "NULL", "OR", "ORDER", "SELECT", "SET", "TABLE", "UPDATE", "USE", "VALUES",
    "WHERE"]

/-- a reserved word in any mixture of upper and lower case -/
def isReserved (part : List Char) : Bool := reserved.any fun w => part.map Char.toUpper = w.toList

def isBare (part : List Char) : Bool := isPlain part && !isReserved part

/-! ## quoting -/

def isQuoted (part : List Char) : Bool :=
  2 ≤ part.length && part.head? = some tick && part.getLast? = some tick

/-- in backticks, those inside doubled -/
def enclose (part : List Char) : List Char :=
  tick :: part.flatMap (fun c => if c = tick then [tick, tick] else [c]) ++ [tick]

def quote (part : List Char) : List Char :=
  if isQuoted part || isBare part then part else enclose part

/-- parts with a dot between them -/
def join (parts : List (List Char)) : List Char := List.intercalate ['.'] parts

def escape (name : List Char) : List Char := join ((split false name).map quote)

def escapeText (name : String) : String := String.ofList (escape name.toList)

end QueryDesk.Sql.Identifier
