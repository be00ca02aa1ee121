import QueryDesk.Sql.Identifier
import QueryDesk.Text.Basic

/-!
# Statements of the console

* `Preview`             the two looks that a preview takes at a table, their statements and names;
* `isDatabaseSwitch`    a statement that may change the current database of its connection;
* `currentDatabase`, `kill`   what the console asks for itself;
* `kill_inj`            what is to be killed names one thread only.
-/

namespace QueryDesk

/-- what a preview of a table shows -/
inductive Preview where
  | data
  | details
deriving DecidableEq

namespace Preview

/-- the statement for a target that is escaped already -/
def sql (target : String) : Preview → String
  | data => "SELECT * FROM " ++ target ++ " LIMIT 1000"
  | details => "DESCRIBE " ++ target

/-- how the query log calls it -/
def title (target : String) : Preview → String
  | data => "Preview " ++ target ++ " data"
  | details => "View " ++ target ++ " details"

def text : Preview → String
  | data => "data"
  | details => "details"

end Preview

namespace Sql

/-- the same letter but for its case; a long s is an s -/
def sameLetter (lower c : Char) : Bool := c.toLower = lower || (lower = 's' && c = '\u017f')

/-- what follows a word of lower-case letters -/
def afterWord? : List Char → List Char → Option (List Char)
  | [], cs => some cs
  | w :: ws, c :: cs => if sameLetter w c then afterWord? ws cs else none
  | _ :: _, [] => none

/-- a statement that begins with `use` or `drop database` and a blank -/
def isDatabaseSwitch (sql : String) : Bool :=
  ["use", "drop database"].any fun word =>
    match afterWord? word.toList sql.toList with
    | some (c :: _) => Text.isBlank c
    | _ => false

def currentDatabase : String := "SELECT DATABASE()"

def kill (thread : UInt64) : String := "KILL QUERY " ++ toString thread.toNat

theorem toList_kill (thread : UInt64) :
    (kill thread).toList = "KILL QUERY ".toList ++ Nat.toDigits 10 thread.toNat := by
  rw [kill, String.toList_append, ← Nat.toList_repr]
  rfl

/-- the thread is read off the statement -/
theorem kill_inj {a b : UInt64} : kill a = kill b ↔ a = b := by
  refine ⟨fun h => ?_, congrArg kill⟩
  have hchars := congrArg String.toList h
  rw [toList_kill, toList_kill] at hchars
  have hdigits : Nat.toDigits 10 a.toNat = Nat.toDigits 10 b.toNat :=
    List.append_cancel_left hchars
  have hread : ∀ n : Nat, Nat.ofDigitChars 10 (Nat.toDigits 10 n) 0 = n := fun _ =>
    Nat.ofDigitChars_toDigits (by decide) (by decide)
  refine UInt64.toNat_inj.mp ?_
  rw [← hread a.toNat, hdigits, hread]

end Sql

end QueryDesk
