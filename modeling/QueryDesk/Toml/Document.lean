import QueryDesk.Json.Reading
import QueryDesk.Toml.Value

/-!
# TOML documents

* `Toml.read`           the members of a document, or `none`;
* `Value.toSource`      a value as a source for readings: they tell whole numbers, texts, arrays and
  tables apart and need no more of anything else;
* `firstItems`          the part of an array that a record takes.
-/

namespace QueryDesk.Toml

/-! ## expressions -/

/-- a document so far, and the table that the next values go to -/
structure Draft where
  members : Node.Members
  current : List String

namespace Draft

/-- a value under a key of the current table -/
def setValue (d : Draft) (key : List String) (v : Value) : Option Draft :=
  (Node.descend false (fun _ ms => Node.setValue key v ms) d.current false d.members).map
    fun members => { d with members }

/-- a header -/
def header (d : Draft) (row : Bool) (path : List String) : Option Draft :=
  match path.reverse with
  | [] => none
  | last :: front =>
    (Node.descend false (fun _ ms => if row then Node.openRow last ms else Node.openTable last ms)
      front.reverse false d.members).map fun members => ⟨members, path⟩

/-- one expression with its line end -/
def expression (d : Draft) (cs : List Char) : Option (Draft × List Char) :=
  match cs with
  | '[' :: '[' :: rest => do
    let (path, rest) ← key? rest
    let rest ← lineEnd (← char? ']' (← char? ']' rest))
    return (← d.header true path, rest)
  | '[' :: rest => do
    let (path, rest) ← key? rest
    let rest ← lineEnd (← char? ']' rest)
    return (← d.header false path, rest)
  | cs => do
    let (key, rest) ← key? cs
    let rest := blanks (← char? '=' rest)
    let (v, rest) ← value? (2 * rest.length + 2) depth rest
    return (← d.setValue key v, ← lineEnd rest)

/-- all expressions; empty lines and comments stand between them -/
def expressions : (fuel : Nat) → Draft → List Char → Option Draft
  | 0, _, _ => none
  | fuel + 1, d, cs => do
    match ← gap cs with
    | [] => return d
    | cs =>
      let (d, rest) ← d.expression cs
      expressions fuel d rest

end Draft

/-! ## documents -/

def document? (cs : List Char) : Option (List (String × Value)) :=
  let cs := match cs with
    | '\ufeff' :: rest => rest
    | _ => cs
  (Draft.expressions (cs.length + 1) ⟨[], []⟩ cs).map fun d => Node.toMembers d.members

/-- a key or a text as it stands in a source -/
def pieces (cs : List Char) : List Json.Piece := cs.map .char

mutual

def Value.toSource : Value → Json.Source
  | .text cs => .string (pieces cs)
  | .whole n => .number ⟨n < 0, Digits.digits n.natAbs, [], none⟩
  | .real => .number ⟨false, ['0'], ['0'], none⟩
  | .bool b => .bool b
  | .moment => .object [(pieces "moment".toList, .string [])]
  | .array items => .array (toSources items)
  | .table members => .object (toSourceMembers members)

def toSources : List Value → List Json.Source
  | [] => []
  | v :: rest => v.toSource :: toSources rest

def toSourceMembers : List (String × Value) → List (List Json.Piece × Json.Source)
  | [] => []
  | (key, v) :: rest => (pieces key.toList, v.toSource) :: toSourceMembers rest

end

/-- a document as a source for readings -/
def read (text : String) : Option Json.Source :=
  (document? text.toList).map fun members => .object (toSourceMembers members)

/-! ## records written as arrays -/

/-- further items do not count -/
def firstItems (n : Nat) : Json.Source → Json.Source
  | .array items => .array (items.take n)
  | s => s

/-- an array has at least `n` items -/
def hasItems (n : Nat) : Json.Source → Bool
  | .array items => n ≤ items.length
  | _ => true

end QueryDesk.Toml
