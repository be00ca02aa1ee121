/-!
# Digits

Decimal digits, in `Digits`:

* `digits n`         the digits of `n`, most significant first, no leading zero;
* `value cs`         the number that a run of digits stands for;
* `padded w n`       the digits of `n` behind zeros up to `w` places;
* `value_digits`     a number is read back from its digits.

Hexadecimal digits, in `Hex`:

* `val?`             the value of a digit in lower or upper case;
* `lower`, `upper`   the digit of a value below 16;
* `value`            the number that a run of digits stands for.
-/

namespace QueryDesk.Digits

/-! ## one digit -/

def char (d : Nat) : Char := Char.ofNat (48 + d % 10)

/-- ASCII digits only -/
def isDigit (c : Char) : Bool := decide (48 ≤ c.toNat ∧ c.toNat ≤ 57)

def val (c : Char) : Nat := c.toNat - 48

private theorem char_facts_all :
    ∀ d, d < 10 → isDigit (char d) = true ∧ val (char d) = d := by decide

theorem isDigit_char (d : Nat) : isDigit (char d) = true := by
  have h := (char_facts_all (d % 10) (Nat.mod_lt _ (by decide))).1
  simpa [char] using h

theorem val_char {d : Nat} (h : d < 10) : val (char d) = d := (char_facts_all d h).2

/-! ## a number -/

def digits (n : Nat) : List Char :=
  if n < 10 then [char n] else digits (n / 10) ++ [char (n % 10)]
termination_by n

def value (cs : List Char) : Nat := cs.foldl (fun v c => 10 * v + val c) 0

theorem value_append_one (cs : List Char) (c : Char) :
    value (cs ++ [c]) = 10 * value cs + val c := by
  simp [value, List.foldl_append]

theorem value_digits (n : Nat) : value (digits n) = n := by
  induction n using digits.induct with
  | case1 n h => rw [digits, if_pos h]; simpa [value] using val_char h
  | case2 n h ih =>
    rw [digits, if_neg h, value_append_one, ih, val_char (Nat.mod_lt _ (by decide))]
    omega

theorem isDigit_of_mem_digits (n : Nat) : ∀ c ∈ digits n, isDigit c = true := by
  induction n using digits.induct with
  | case1 n h => rw [digits, if_pos h]; simp [isDigit_char]
  | case2 n h ih =>
    rw [digits, if_neg h]
    intro c hc
    rcases List.mem_append.1 hc with hc | hc
    · exact ih c hc
    · rw [List.mem_singleton.1 hc]; exact isDigit_char _

theorem digits_ne_nil (n : Nat) : digits n ≠ [] := by
  rw [digits]; split <;> simp

/-- the digits of `n` behind zeros up to `w` places -/
def padded (w n : Nat) : List Char :=
  let ds := digits n
  List.replicate (w - ds.length) '0' ++ ds

end QueryDesk.Digits

namespace QueryDesk.Hex

def val? (c : Char) : Option Nat :=
  if '0' ≤ c ∧ c ≤ '9' then some (c.toNat - 48)
  else if 'a' ≤ c ∧ c ≤ 'f' then some (c.toNat - 87)
  else if 'A' ≤ c ∧ c ≤ 'F' then some (c.toNat - 55)
  else none

def lower (n : Nat) : Char := if n < 10 then Char.ofNat (48 + n) else Char.ofNat (87 + n)

def upper (n : Nat) : Char := if n < 10 then Char.ofNat (48 + n) else Char.ofNat (55 + n)

def value (cs : List Char) : Nat := cs.foldl (fun v c => 16 * v + (val? c).getD 0) 0

/-! ## a digit is read back -/

private theorem val?_lower_all : ∀ n, n < 16 → val? (lower n) = some n := by decide

theorem val?_lower {n : Nat} (h : n < 16) : val? (lower n) = some n := val?_lower_all n h

end QueryDesk.Hex
