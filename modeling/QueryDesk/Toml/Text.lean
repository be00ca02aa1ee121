import QueryDesk.Number.Digits

/-!
# The text of TOML

Readers take characters from the front and give back the rest, or `none`.

* `blanks`, `lineEnd`, `gap`   what stands between the parts of a document;
* `basic`, `literal`           the four kinds of strings;
* `key`                        a dotted key, at least one part.
-/

namespace QueryDesk.Toml

/-- a reader of something at the front of a text -/
abbrev Reader (α : Type) := List Char → Option (α × List Char)

/-! ## blanks and comments -/

def isBlank (c : Char) : Bool := c = ' ' || c = '\t'

def blanks (cs : List Char) : List Char := cs.dropWhile isBlank

/-- a character that may stand in a comment or a literal string: no control character but the tab -/
def isPlain (c : Char) : Bool := c = '\t' || (0x20 ≤ c.toNat && c.toNat ≠ 0x7F)

/-- without a comment, if one begins here -/
def comment : List Char → List Char
  | '#' :: rest => rest.dropWhile isPlain
  | cs => cs

/-- a line break -/
def newline? : List Char → Option (List Char)
  | '\n' :: rest => some rest
  | '\r' :: '\n' :: rest => some rest
  | _ => none

/-- the end of a line behind an expression -/
def lineEnd (cs : List Char) : Option (List Char) :=
  match comment (blanks cs) with
  | [] => some []
  | cs => newline? cs

/-- without blanks, line breaks and comments -/
def gap : List Char → Option (List Char)
  | [] => some []
  | c :: rest =>
    if isBlank c ∨ c = '\n' then gap rest
    else if c = '\r' then (if rest.head? = some '\n' then gap rest else none)
    else if c = '#' then inComment rest
    else some (c :: rest)
where
  inComment : List Char → Option (List Char)
  | [] => some []
  | c :: rest =>
    if c = '\n' then gap rest
    else if c = '\r' then (if rest.head? = some '\n' then gap rest else none)
    else if isPlain c then inComment rest
    else none

/-! ## strings -/

/-- the character with a code of exactly `n` digits -/
def coded? (n : Nat) (cs : List Char) : Option (Char × List Char) := do
  let ds := cs.take n
  let code ← ds.foldlM (fun v c => (Hex.val? c).map (16 * v + ·)) 0
  if ds.length = n ∧ (code < 0xD800 ∨ (0xDFFF < code ∧ code < 0x110000)) then
    some (Char.ofNat code, cs.drop n)
  else none

/-- the character behind a backslash -/
def escaped? : Reader Char
  | 'b' :: rest => some ('\x08', rest)
  | 't' :: rest => some ('\t', rest)
  | 'n' :: rest => some ('\n', rest)
  | 'f' :: rest => some ('\x0c', rest)
  | 'r' :: rest => some ('\r', rest)
  | '"' :: rest => some ('"', rest)
  | '\\' :: rest => some ('\\', rest)
  | 'u' :: rest => coded? 4 rest
  | 'U' :: rest => coded? 8 rest
  | _ => none

/-- what follows a line break that a backslash joins: the next character that is no blank -/
def joined? (cs : List Char) : Option (List Char) := do
  let rest ← newline? (blanks cs)
  skip rest
where
  skip : List Char → Option (List Char)
  | [] => some []
  | c :: rest =>
    if isBlank c ∨ c = '\n' then skip rest
    else if c = '\r' ∧ rest.head? = some '\n' then skip rest
    else some (c :: rest)

/-- what `n` quotes in a row mean inside a string of many lines: three end it, up to two stand for
themselves, before its end too -/
def quotes? (quote : Char) (cs : List Char) : Option (List Char × Option (List Char)) :=
  let run := cs.takeWhile (· = quote)
  let rest := cs.drop run.length
  if run.length < 3 then some (run, none)
  else if run.length ≤ 5 then some (run.drop 3, some rest)
  else none

/-- a string with escapes, behind its opening quotes; `many` if it may have many lines -/
def basic (many : Bool) : (fuel : Nat) → Reader (List Char)
  | 0, _ => none
  | fuel + 1, cs =>
    match cs with
    | [] => none
    | c :: rest =>
      let more (front : List Char) (rest : List Char) : Option (List Char × List Char) :=
        (basic many fuel rest).map fun (s, rest) => (front ++ s, rest)
      if c = '"' then
        if many then
          match quotes? '"' cs with
          | some (front, some rest) => some (front, rest)
          | some (front, none) => more front (cs.drop front.length)
          | none => none
        else some ([], rest)
      else if c = '\\' then
        match (if many then joined? rest else none) with
        | some rest => more [] rest
        | none => (escaped? rest).bind fun (c, rest) => more [c] rest
      else if isPlain c then more [c] rest
      else if many then (newline? cs).bind fun rest => more ['\n'] rest
      else none

/-- a string without escapes, behind its opening quotes -/
def literal (many : Bool) : (fuel : Nat) → Reader (List Char)
  | 0, _ => none
  | fuel + 1, cs =>
    match cs with
    | [] => none
    | c :: rest =>
      let more (front : List Char) (rest : List Char) : Option (List Char × List Char) :=
        (literal many fuel rest).map fun (s, rest) => (front ++ s, rest)
      if c = '\'' then
        if many then
          match quotes? '\'' cs with
          | some (front, some rest) => some (front, rest)
          | some (front, none) => more front (cs.drop front.length)
          | none => none
        else some ([], rest)
      else if isPlain c then more [c] rest
      else if many then (newline? cs).bind fun rest => more ['\n'] rest
      else none

/-- a line break right behind opening quotes does not count -/
def opened (cs : List Char) : List Char := (newline? cs).getD cs

def string? : Reader (List Char)
  | '"' :: '"' :: '"' :: rest => basic true (rest.length + 1) (opened rest)
  | '"' :: rest => basic false (rest.length + 1) rest
  | '\'' :: '\'' :: '\'' :: rest => literal true (rest.length + 1) (opened rest)
  | '\'' :: rest => literal false (rest.length + 1) rest
  | _ => none

/-! ## keys -/

def isBare (c : Char) : Bool := c.isAlphanum || c = '-' || c = '_'

/-- one part of a key: bare, or a string of one line -/
def part? : Reader (List Char)
  | '"' :: rest => basic false (rest.length + 1) rest
  | '\'' :: rest => literal false (rest.length + 1) rest
  | cs =>
    let name := cs.takeWhile isBare
    if name = [] then none else some (name, cs.drop name.length)

/-- the parts of a key that stand behind dots -/
def parts (fuel : Nat) (cs : List Char) : Option (List (List Char) × List Char) :=
  match fuel with
  | 0 => none
  | fuel + 1 => do
    let (name, rest) ← part? (blanks cs)
    match blanks rest with
    | '.' :: rest =>
      let (names, rest) ← parts fuel rest
      return (name :: names, rest)
    | rest => return ([name], rest)

/-- the levels that keys and values may nest -/
def depth : Nat := 79

/-- a dotted key with the blanks around it -/
def key? (cs : List Char) : Option (List String × List Char) := do
  let (names, rest) ← parts (cs.length + 1) cs
  if names.length ≤ depth then some (names.map String.ofList, rest) else none

end QueryDesk.Toml
