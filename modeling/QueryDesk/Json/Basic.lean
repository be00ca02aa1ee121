import QueryDesk.Number.Binary64

/-!
# JSON values

* `Json.Number`   a whole number of 64 bits, or a double;
* `Json`          a value; the members of an object keep their order;
* `Json.object?`, `array?`, `string?`   what a value is, if it is that;
* `Json.member?`, `head?`               looking inside;
* `Json.put`, `Json.ofMembers`          a repeated member keeps its first place and its last value.
-/

namespace QueryDesk

/-- whole numbers from `-2 ^ 63` up to below `2 ^ 64` stay whole, all others are doubles -/
inductive Json.Number where
  | whole (n : Int) (fits : -9223372036854775808 ≤ n ∧ n < 18446744073709551616)
  | real (x : Binary64)
deriving DecidableEq

inductive Json where
  | null
  | bool (b : Bool)
  | number (n : Json.Number)
  | string (s : String)
  | array (items : List Json)
  | object (members : List (String × Json))

namespace Json

instance : Inhabited Json := ⟨null⟩

/-- a natural number below `2 ^ 64`, the rest of it dropped -/
def nat (n : Nat) : Json := number (.whole (n % 18446744073709551616 : Nat) (by omega))

theorem nat_of_lt {n : Nat} (h : n < 18446744073709551616) :
    nat n = number (.whole n (by omega)) := by
  unfold nat
  congr 2
  omega

/-! ## looking inside -/

def object? : Json → Option (List (String × Json))
  | object members => some members
  | _ => none

def array? : Json → Option (List Json)
  | array items => some items
  | _ => none

def string? : Json → Option String
  | string s => some s
  | _ => none

/-- the member of an object -/
def member? (key : String) (j : Json) : Option Json := do
  (← j.object?).lookup key

/-- the first item of an array -/
def head? (j : Json) : Option Json := do
  (← j.array?).head?

/-! ## members -/

/-- the members with `key` holding `j`: in the place of `key`, or at the end -/
def put (key : String) (j : Json) : List (String × Json) → List (String × Json)
  | [] => [(key, j)]
  | (k, v) :: rest => if k = key then (k, j) :: rest else (k, v) :: put key j rest

/-- an object of members in the order in which they were written -/
def ofMembers (members : List (String × Json)) : Json :=
  object (members.foldl (fun ms m => put m.1 m.2 ms) [])

theorem put_of_not_mem {key : String} {j : Json} {ms : List (String × Json)}
    (h : ∀ m ∈ ms, m.1 ≠ key) : put key j ms = ms ++ [(key, j)] := by
  induction ms with
  | nil => rfl
  | cons m ms ih =>
    have hm := h m (by simp)
    simp [put, hm, ih (fun x hx => h x (by simp [hx]))]

/-- the places of the members are those of the keys -/
theorem map_fst_put (key : String) (j : Json) (ms : List (String × Json)) :
    (put key j ms).map (·.1) =
      if key ∈ ms.map (·.1) then ms.map (·.1) else ms.map (·.1) ++ [key] := by
  induction ms with
  | nil => rfl
  | cons m ms ih =>
    by_cases h : m.1 = key
    · simp [put, h]
    · have h' : ¬ key = m.1 := fun e => h e.symm
      simp only [put, h, if_false, List.map_cons, ih, List.mem_cons, h', false_or]
      split <;> simp

end Json

end QueryDesk
