/-!
# Words of a command line

A `Grammar` tells what the words of a command line may be, a `Scan` how far they have been read.

* `--name value`, `--name=value`, `-n value`, `-nvalue` and `-n=value` give an option its value;
* `--name` and `-n` are switches; a name that nobody knows is refused;
* any other word is the value that the option before it waits for, else a command, else an operand;
* behind `--` every word is an operand.

A word that starts with a dash is never a value, a dash by itself is.  A value is settled when the
next option or operand begins: only then is it looked at, and an option that comes twice refused.
-/

namespace QueryDesk.CommandLine

/-- why a command line is not carried out -/
inductive Refusal where
  | help
  | version
  /-- there is nothing on it -/
  | bare
  | noCommand
  | unknownCommand
  | unknownOption
  /-- an option has no value, or an empty one where something is needed -/
  | missingValue
  /-- a value that is no number -/
  | badValue
  /-- a switch has a value -/
  | needlessValue
  /-- an option comes twice -/
  | repeated
  | missingOperand
deriving DecidableEq

inductive Role (κ : Type) where
  | value (key : κ)
  | switch (key : κ)
  | help
  | version

structure Grammar (κ : Type) where
  long : String → Option (Role κ)
  short : Char → Option (Role κ)
  /-- the operands in their order -/
  operands : List κ
  commands : List String
  /-- why a value is refused -/
  check : κ → String → Option Refusal

structure Scan (κ : Type) where
  /-- what has been settled, the oldest first -/
  settled : List (κ × String)
  /-- the option or operand that came last, with its value if that has come -/
  pending : Option (κ × Option String)
  /-- operands that have not come -/
  operands : List κ
  /-- all words to come are operands -/
  closed : Bool

namespace Scan

variable {κ : Type} [DecidableEq κ]

def start (g : Grammar κ) : Scan κ := ⟨[], none, g.operands, false⟩

def value? (s : Scan κ) (key : κ) : Option String := s.settled.lookup key

def has (s : Scan κ) (key : κ) : Bool := (s.value? key).isSome

/-! ## settling -/

def give (g : Grammar κ) (key : κ) (v : String) (s : Scan κ) : Except Refusal (Scan κ) :=
  if s.has key then .error .repeated
  else match g.check key v with
    | some refusal => .error refusal
    | none => .ok { s with settled := s.settled ++ [(key, v)] }

/-- nothing is pending afterwards -/
def settle (g : Grammar κ) (s : Scan κ) : Except Refusal (Scan κ) :=
  match s.pending with
  | none => .ok s
  | some (_, none) => .error .missingValue
  | some (key, some v) => give g key v { s with pending := none }

/-! ## options -/

/-- an option, with the value that stands in the same word -/
def begin (g : Grammar κ) (role : Role κ) (attached : Option String) (s : Scan κ) :
    Except Refusal (Scan κ) :=
  match role, attached with
  | .value key, none => do return { ← settle g s with pending := some (key, none) }
  | .value key, some v => do give g key v (← settle g s)
  | _, some _ => .error .needlessValue
  | .switch key, none => do give g key "" (← settle g s)
  | .help, none => do let _ ← settle g s; .error .help
  | .version, none => do let _ ← settle g s; .error .version

/-- what follows the two dashes of a long option -/
def long (g : Grammar κ) (cs : List Char) (s : Scan κ) : Except Refusal (Scan κ) :=
  let (name, rest) := cs.span (· ≠ '=')
  match g.long (String.ofList name) with
  | none => .error .unknownOption
  | some role => begin g role (if rest = [] then none else some (String.ofList (rest.drop 1))) s

/-- what follows the dash of a short option: its value, or further options behind a switch -/
def short (g : Grammar κ) : List Char → Scan κ → Except Refusal (Scan κ)
  | [], s => .ok s
  | c :: rest, s =>
    match g.short c with
    | none => .error .unknownOption
    | some (.value key) =>
      let attached := match rest with
        | [] => none
        | '=' :: v => some (String.ofList v)
        | v => some (String.ofList v)
      begin g (.value key) attached s
    | some role => do short g rest (← begin g role none s)

/-! ## words -/

/-- a word that is no option -/
def operand (g : Grammar κ) (w : String) (s : Scan κ) : Except Refusal (Scan κ) :=
  match s.operands with
  | key :: rest => do return { ← settle g s with pending := some (key, some w), operands := rest }
  | [] =>
    if g.commands = [] ∨ (s.closed ∧ w ∈ g.commands) then .error .unknownOption
    else .error .unknownCommand

/-- the option before is still without its value -/
def waiting? (s : Scan κ) : Option κ :=
  match s.pending with
  | some (key, none) => some key
  | _ => none

/-- a word that is no command -/
def word (g : Grammar κ) (w : String) (s : Scan κ) : Except Refusal (Scan κ) :=
  if s.closed then operand g w s
  else match w.toList with
    | ['-', '-'] => .ok { s with closed := true }
    | '-' :: '-' :: cs => long g cs s
    | '-' :: c :: cs => short g (c :: cs) s
    | _ =>
      match s.waiting? with
      | some key => .ok { s with pending := some (key, some w) }
      | none => operand g w s

/-- the words up to a command, and that command with the words behind it -/
def words (g : Grammar κ) :
    List String → Scan κ → Except Refusal (Scan κ × Option (String × List String))
  | [], s => .ok (s, none)
  | w :: rest, s =>
    if s.closed = false ∧ s.waiting? = none ∧ w ∈ g.commands then .ok (s, some (w, rest))
    else do words g rest (← word g w s)

end Scan

end QueryDesk.CommandLine
