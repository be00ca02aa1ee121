import QueryDesk.Number.Decimal
import QueryDesk.Table
import QueryDesk.Toml.Text

/-!
# Values of TOML

* `Value`       numbers, texts, moments, arrays and tables;
* `scalar?`     a value without brackets;
* `Node`        what stands under a key while a document is read: a value, a table with the way in
  which it came to be, or tables in a row;
* `Node.descend`   a change at the end of a path, under the rules for tables that may be reopened.
-/

namespace QueryDesk.Toml

inductive Value where
  | text (cs : List Char)
  | whole (n : Int)
  | real
  | bool (b : Bool)
  /-- a date, a time, or both -/
  | moment
  | array (items : List Value)
  | table (members : List (String × Value))

instance : Inhabited Value := ⟨.real⟩

/-! ## numbers -/

/-- digits with single underscores between them -/
def digits? (isDigit : Char → Bool) (cs : List Char) : Option (List Char × List Char) :=
  match cs with
  | c :: rest => if isDigit c then some (more (c :: rest)) else none
  | [] => none
where
  more : List Char → List Char × List Char
  | '_' :: d :: rest =>
    if isDigit d then let (ds, rest) := more (d :: rest); (ds, rest) else ([], '_' :: d :: rest)
  | c :: rest => if isDigit c then let (ds, rest) := more rest; (c :: ds, rest) else ([], c :: rest)
  | [] => ([], [])

/-- digits in base 10 without a zero in front -/
def decimal? (cs : List Char) : Option (List Char × List Char) :=
  match cs with
  | '0' :: rest => some (['0'], rest)
  | _ => digits? Digits.isDigit cs

def sign (cs : List Char) : Bool × List Char :=
  match cs with
  | '-' :: rest => (true, rest)
  | '+' :: rest => (false, rest)
  | _ => (false, cs)

def exponent? : Reader (Int)
  | c :: rest =>
    if c = 'e' ∨ c = 'E' then
      let (down, rest) := sign rest
      (digits? Digits.isDigit rest).map fun (ds, rest) =>
        (if down then -(Digits.value ds : Int) else Digits.value ds, rest)
    else none
  | [] => none

/-- a number with a fraction or an exponent; one that overflows upwards is none -/
def real? (cs : List Char) : Option (Value × List Char) := do
  let (neg, rest) := sign cs
  match rest with
  | 'i' :: 'n' :: 'f' :: rest => return (.real, rest)
  | 'n' :: 'a' :: 'n' :: rest => return (.real, rest)
  | _ =>
    let (whole, rest) ← decimal? rest
    let (fraction, behind) ← match rest with
      | '.' :: rest => digits? Digits.isDigit rest
      | rest => if (exponent? rest).isSome then some ([], rest) else none
    let (power, rest) := (exponent? behind).getD (0, behind)
    let numeral : Decimal := ⟨Digits.value (whole ++ fraction), power - fraction.length⟩
    if neg ∨ (Binary64.ofDecimal? false numeral).isSome then return (.real, rest) else none

/-- a whole number in base 2, 8 or 16 -/
def based? (base : Nat) (cs : List Char) : Option (Value × List Char) := do
  let isDigit (c : Char) : Bool := (Hex.val? c).any (· < base)
  let (ds, rest) ← digits? isDigit cs
  let n := ds.foldl (fun n c => base * n + (Hex.val? c).getD 0) 0
  if n < 9223372036854775808 then some (.whole n, rest) else none

def whole? : List Char → Option (Value × List Char)
  | '0' :: 'x' :: rest => based? 16 rest
  | '0' :: 'o' :: rest => based? 8 rest
  | '0' :: 'b' :: rest => based? 2 rest
  | cs => do
    let (neg, rest) := sign cs
    let (ds, rest) ← decimal? rest
    let n : Int := if neg then -(Digits.value ds : Int) else Digits.value ds
    if -9223372036854775808 ≤ n ∧ n < 9223372036854775808 then some (.whole n, rest) else none

/-! ## moments -/

/-- exactly two digits, a number within bounds -/
def pair? (low high : Nat) (cs : List Char) : Option (Nat × List Char) :=
  match cs with
  | a :: b :: rest =>
    let n := Digits.value [a, b]
    if Digits.isDigit a ∧ Digits.isDigit b ∧ low ≤ n ∧ n ≤ high then some (n, rest) else none
  | _ => none

def char? (c : Char) : List Char → Option (List Char)
  | d :: rest => if d = c then some rest else none
  | [] => none

def date? (cs : List Char) : Option (List Char) := do
  let year := cs.take 4
  if !(year.length = 4 && year.all Digits.isDigit) then none
  let y := Digits.value year
  let (month, rest) ← pair? 1 12 (← char? '-' (cs.drop 4))
  let (day, rest) ← pair? 1 31 (← char? '-' rest)
  let leap := y % 4 = 0 ∧ (y % 100 ≠ 0 ∨ y % 400 = 0)
  let last :=
    if month = 2 then (if leap then 29 else 28) else if month ∈ [4, 6, 9, 11] then 30 else 31
  if day ≤ last then some rest else none

def time? (cs : List Char) : Option (List Char) := do
  let (_, rest) ← pair? 0 23 cs
  let (_, rest) ← pair? 0 59 (← char? ':' rest)
  let (_, rest) ← pair? 0 60 (← char? ':' rest)
  match rest with
  | '.' :: c :: rest => if Digits.isDigit c then some (rest.dropWhile Digits.isDigit) else none
  | '.' :: [] => none
  | rest => some rest

/-- an offset, if one is written -/
def offset? : List Char → Option (List Char)
  | 'Z' :: rest | 'z' :: rest => some rest
  | c :: rest =>
    if c = '+' ∨ c = '-' then do
      let (_, rest) ← pair? 0 23 rest
      let (_, rest) ← pair? 0 59 (← char? ':' rest)
      some rest
    else some (c :: rest)
  | [] => some []

/-- a date with or without a time, or a time alone -/
def moment? (cs : List Char) : Option (List Char) :=
  match date? cs with
  | none => time? cs
  | some rest =>
    match rest with
    | 'T' :: behind | 't' :: behind => (time? behind).bind offset?
    | ' ' :: behind =>
      if (pair? 0 23 behind).any (fun r => r.2.head? = some ':') then (time? behind).bind offset?
      else some rest
    | _ => some rest

/-- a date or a time begins here: four digits and a dash, or two and a colon -/
def isMoment (cs : List Char) : Bool :=
  match (cs.takeWhile Digits.isDigit).length, (cs.dropWhile Digits.isDigit).head? with
  | 4, some '-' => true
  | 2, some ':' => true
  | _, _ => false

/-! ## values without brackets -/

def scalar? (cs : List Char) : Option (Value × List Char) :=
  match cs with
  | 't' :: 'r' :: 'u' :: 'e' :: rest => some (.bool true, rest)
  | 'f' :: 'a' :: 'l' :: 's' :: 'e' :: rest => some (.bool false, rest)
  | '"' :: _ | '\'' :: _ => (string? cs).map fun (s, rest) => (.text s, rest)
  | _ =>
    if isMoment cs then (moment? cs).map fun rest => (.moment, rest)
    else (real? cs).or (whole? cs)

/-! ## the tree of a document -/

inductive Node where
  | value (v : Value)
  /-- `implied` if only a longer path named it, `dotted` if that path was the key of a value -/
  | table (implied dotted : Bool) (members : List (String × Node))
  | tables (rows : List (List (String × Node)))

instance : Inhabited Node := ⟨.value .real⟩

namespace Node

abbrev Members := List (String × Node)

def put (key : String) (n : Node) : Members → Members
  | [] => [(key, n)]
  | (k, m) :: rest => if k = key then (k, n) :: rest else (k, m) :: put key n rest

/-- the last row of tables in a row, changed -/
def changeLast (f : Members → Option Members) : List Members → Option (List Members)
  | [] => none
  | [row] => (f row).map ([·])
  | row :: rest => (changeLast f rest).map (row :: ·)

/-- a change at the end of a path; `f` is told whether the table there was made by a dotted key.
A dotted key may not enter a table that has a header of its own -/
def descend (byKey : Bool) (f : (dotted : Bool) → Members → Option Members) :
    List String → (dotted : Bool) → Members → Option Members
  | [], dotted, ms => f dotted ms
  | key :: path, _, ms =>
    match Table.find key ms with
    | none => (descend byKey f path byKey []).map fun inner => put key (.table true byKey inner) ms
    | some (.value _) => none
    | some (.tables rows) =>
      (changeLast (descend byKey f path false) rows).map fun rows => put key (.tables rows) ms
    | some (.table implied dotted inner) =>
      if byKey && !implied then none
      else
        (descend byKey f path dotted inner).map fun inner =>
          put key (.table implied dotted inner) ms

/-- a value under a key of the current table -/
def setValue (key : List String) (v : Value) (ms : Members) : Option Members :=
  match key.reverse with
  | [] => none
  | last :: front =>
    descend true (fun dotted ms =>
      if (front ≠ [] ∧ dotted = false) ∨ (Table.find last ms).isSome then none
      else some (put last (.value v) ms)) front.reverse false ms

/-- a table with a header: a new one, or one that longer headers have implied -/
def openTable (last : String) (ms : Members) : Option Members :=
  match Table.find last ms with
  | none => some (put last (.table false false []) ms)
  | some (.table true false inner) => some (put last (.table false false inner) ms)
  | some _ => none

/-- one more table in a row -/
def openRow (last : String) (ms : Members) : Option Members :=
  match Table.find last ms with
  | none => some (put last (.tables [[]]) ms)
  | some (.tables rows) => some (put last (.tables (rows ++ [[]])) ms)
  | some _ => none

mutual

def toValue : Node → Value
  | value v => v
  | table _ _ ms => .table (toMembers ms)
  | tables rows => .array (toRows rows)

def toMembers : List (String × Node) → List (String × Value)
  | [] => []
  | (key, n) :: rest => (key, toValue n) :: toMembers rest

def toRows : List (List (String × Node)) → List Value
  | [] => []
  | row :: rest => .table (toMembers row) :: toRows rest

end

end Node

/-! ## values with brackets -/

mutual

/-- a value at most `level` brackets deep -/
def value? : (fuel level : Nat) → List Char → Option (Value × List Char)
  | 0, _, _ => none
  | fuel + 1, level, '[' :: rest =>
    if level = 0 then none
    else (items? fuel (level - 1) rest).map fun (vs, rest) => (.array vs, rest)
  | fuel + 1, level, '\x7b' :: rest =>
    if level = 0 then none
    else do
      let (ms, rest) ← match blanks rest with
        | '\x7d' :: rest => some ([], rest)
        | rest => members? fuel (level - 1) rest []
      return (.table (Node.toMembers ms), rest)
  | _ + 1, _, cs => scalar? cs

/-- the items of an array up to its bracket; a comma may stand behind the last -/
def items? : (fuel level : Nat) → List Char → Option (List Value × List Char)
  | 0, _, _ => none
  | fuel + 1, level, cs => do
    match ← gap cs with
    | ']' :: rest => return ([], rest)
    | cs =>
      let (v, rest) ← value? fuel level cs
      match ← gap rest with
      | ',' :: rest =>
        let (vs, rest) ← items? fuel level rest
        return (v :: vs, rest)
      | ']' :: rest => return ([v], rest)
      | _ => none

/-- the members of a table on one line up to its bracket, behind those read so far -/
def members? : (fuel level : Nat) → List Char → Node.Members → Option (Node.Members × List Char)
  | 0, _, _, _ => none
  | fuel + 1, level, cs, ms => do
    let (key, rest) ← key? cs
    let (v, rest) ← value? fuel level (blanks (← char? '=' rest))
    let ms ← Node.setValue key v ms
    match blanks rest with
    | ',' :: rest => members? fuel level rest ms
    | '\x7d' :: rest => return (ms, rest)
    | _ => none

end

end QueryDesk.Toml
