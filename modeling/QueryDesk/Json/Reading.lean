import QueryDesk.Json.Source

/-!
# Reading records out of JSON

A `Reading α` takes a source to an `α` or refuses it.  It is told the room left, the number of
brackets that may still be entered; only what is read needs room, what is ignored needs none.

* `Reading.value`    any value, as it stands;
* `Reading.record`   a record: an object in which a known member stands at most once and unknown
  members are ignored, or an array of the members in their order;
* `required`, `defaulted`   a member of a record;
* `parse`            a whole text, with room for `depth` brackets.
-/

namespace QueryDesk.Json

/-- the brackets that a text may nest -/
def depth : Nat := 127

abbrev Reading (α : Type) := Nat → Source → Option α

namespace Reading

variable {α β : Type}

/-- a whole text -/
def parse (r : Reading α) (text : String) : Option α := (Source.read text).bind (r depth)

/-! ## single values -/

def string : Reading String
  | _, .string pieces => Piece.text? pieces
  | _, _ => none

def number : Reading Number
  | _, .number n => n.number?
  | _, _ => none

/-- a whole number below a bound -/
def natBelow (bound : Nat) : Reading Nat := fun room s =>
  match number room s with
  | some (.whole n _) => if 0 ≤ n ∧ n < bound then some n.toNat else none
  | _ => none

def nat32 : Reading Nat := natBelow 4294967296
def nat64 : Reading Nat := natBelow 18446744073709551616

def double : Reading Binary64 := fun room s => (number room s).map Number.toDouble

/-- a value that may be `null` -/
def optional (r : Reading α) : Reading (Option α)
  | _, .null => some none
  | room, s => (r room s).map some

def list (r : Reading α) : Reading (List α)
  | room + 1, .array items => items.mapM (r room)
  | _, _ => none

def map (f : α → β) (r : Reading α) : Reading β := fun room s => (r room s).map f

/-! ## any value -/

mutual

/-- any value; a repeated member keeps its first place and its last value -/
def value : Nat → Source → Option Json
  | _, .null => some .null
  | _, .bool b => some (.bool b)
  | _, .number n => n.number?.map .number
  | _, .string pieces => (Piece.text? pieces).map .string
  | 0, .array _ => none
  | room + 1, .array items => (values room items).map .array
  | 0, .object _ => none
  | room + 1, .object members => (members? room members).map Json.ofMembers

def values : Nat → List Source → Option (List Json)
  | _, [] => some []
  | room, s :: rest => do return (← value room s) :: (← values room rest)

def members? : Nat → List (List Piece × Source) → Option (List (String × Json))
  | _, [] => some []
  | room, (key, s) :: rest => do
    return (← Piece.text? key, ← value room s) :: (← members? room rest)

end

/-! ## records -/

/-- the known members that a record has, each once -/
abbrev Fields := List (String × Source)

/-- the members of a record with the given names -/
def fields? (names : List String) : Source → Option Fields
  | .object members => do
    let members ← members.mapM fun m => (Piece.text? m.1).map (·, m.2)
    let known := members.filter (·.1 ∈ names)
    if (known.map (·.1)).Nodup then some known else none
  | .array items => if items.length ≤ names.length then some (names.zip items) else none
  | _ => none

/-- a record with members of the given names -/
def record (names : List String) (build : Nat → Fields → Option α) : Reading α
  | room + 1, s => (fields? names s).bind (build room)
  | 0, _ => none

def required (r : Reading α) (name : String) (room : Nat) (fields : Fields) : Option α :=
  (fields.lookup name).bind (r room)

/-- a member that takes its default when it is absent -/
def defaulted (default : α) (r : Reading α) (name : String) (room : Nat) (fields : Fields) :
    Option α :=
  match fields.lookup name with
  | none => some default
  | some s => r room s

/-- an object with a single member, which says what its value is -/
def tagged (build : Nat → String → Source → Option α) : Reading α
  | room + 1, .object [(key, s)] => do build room (← Piece.text? key) s
  | _, _ => none

end Reading

/-! ## reading any text as it stands -/

/-- the value of a text -/
def parse? (text : String) : Option Json := Reading.parse Reading.value text

end QueryDesk.Json
