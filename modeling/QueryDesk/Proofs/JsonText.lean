import QueryDesk.Proofs.DecimalText

/-!
# What was written is read

* `Json.source`     a value as it is written: numbers as they are spelt, strings by characters;
* `Source.Waits`    a state that passes over blanks.

Each piece of a text is read from any stack of open brackets, so the values follow by induction
(`reading_write`).  **`read_write`**: a written value is read, whatever its layout.
-/

namespace QueryDesk.Json

/-! ## values as they are written -/

mutual

def source : Json → Source
  | null => .null
  | bool b => .bool b
  | number n => .number n.numeral
  | string s => .string (s.toList.map .char)
  | array items => .array (sources items)
  | object members => .object (memberSources members)

def sources : List Json → List Source
  | [] => []
  | j :: rest => source j :: sources rest

def memberSources : List (String × Json) → List (List Piece × Source)
  | [] => []
  | (key, j) :: rest => (key.toList.map .char, source j) :: memberSources rest

end

theorem sources_eq (items : List Json) : sources items = items.map source := by
  induction items with
  | nil => rfl
  | cons j rest ih => rw [sources, ih, List.map_cons]

theorem memberSources_eq (members : List (String × Json)) :
    memberSources members = members.map fun m => (m.1.toList.map .char, m.2.source) := by
  induction members with
  | nil => rfl
  | cons m rest ih =>
    obtain ⟨key, j⟩ := m
    rw [memberSources, ih, List.map_cons]

namespace Source

/-! ## strings -/

section
variable (isKey : Bool) (ps : List Piece) (stack : List Frame)

theorem reading_control {c : Char} (h : c.toNat < 0x20) (rest : List Char) :
    reading ⟨.text isKey ps .plain, stack⟩
        (['\\', 'u', '0', '0', Hex.lower (c.toNat / 16), Hex.lower (c.toNat % 16)] ++ rest) =
      reading ⟨.text isKey (.char c :: ps) .plain, stack⟩ rest := by
  have hhigh := Hex.val?_lower (by omega : c.toNat / 16 < 16)
  have hlow := Hex.val?_lower (by omega : c.toNat % 16 < 16)
  have hvalue : 16 * (c.toNat / 16) + c.toNat % 16 = c.toNat := by omega
  have hpiece : Piece.ofUnit c.toNat = .char c := by
    rw [Piece.ofUnit, if_neg (by omega), Char.ofNat_toNat]
  have hthird : step ⟨.text isKey ps (.unit 2 0), stack⟩ (Hex.lower (c.toNat / 16)) =
      some ⟨.text isKey ps (.unit 3 (c.toNat / 16)), stack⟩ := by
    simp only [step, stepText, hhigh, Option.bind_eq_bind, Option.bind_some]
    rw [if_neg (by decide), Nat.mul_zero, Nat.zero_add]
  have hfourth : step ⟨.text isKey ps (.unit 3 (c.toNat / 16)), stack⟩
      (Hex.lower (c.toNat % 16)) = some ⟨.text isKey (.char c :: ps) .plain, stack⟩ := by
    simp only [step, stepText, hlow, Option.bind_eq_bind, Option.bind_some]
    rw [if_pos trivial, hvalue, hpiece]
  calc reading ⟨.text isKey ps .plain, stack⟩
        (['\\', 'u', '0', '0', Hex.lower (c.toNat / 16), Hex.lower (c.toNat % 16)] ++ rest)
      = reading ⟨.text isKey ps (.unit 0 0), stack⟩
          ('0' :: '0' :: Hex.lower (c.toNat / 16) :: Hex.lower (c.toNat % 16) :: rest) :=
        (reading_of_step rfl _).trans (reading_of_step rfl _)
    _ = reading ⟨.text isKey ps (.unit 2 0), stack⟩
          (Hex.lower (c.toNat / 16) :: Hex.lower (c.toNat % 16) :: rest) :=
        (reading_of_step rfl _).trans (reading_of_step rfl _)
    _ = reading ⟨.text isKey (.char c :: ps) .plain, stack⟩ rest :=
        (reading_of_step hthird _).trans (reading_of_step hfourth _)

theorem reading_escape (c : Char) (rest : List Char) :
    reading ⟨.text isKey ps .plain, stack⟩ (escape c ++ rest) =
      reading ⟨.text isKey (.char c :: ps) .plain, stack⟩ rest := by
  have letter : ∀ {letter : Char}, letter ≠ 'u' → unescape? letter = some c →
      reading ⟨.text isKey ps .plain, stack⟩ ('\\' :: letter :: rest) =
        reading ⟨.text isKey (.char c :: ps) .plain, stack⟩ rest := by
    intro letter hu hletter
    refine (reading_of_step rfl _).trans (reading_of_step ?_ _)
    show (if letter = 'u' then _ else _) = _
    rw [if_neg hu, hletter]
    rfl
  unfold escape
  split
  next h => exact letter (by decide) (by rw [h]; rfl)
  next hquote =>
  split
  next h => exact letter (by decide) (by rw [h]; rfl)
  next hslash =>
  split
  next h => exact letter (by decide) (by rw [h]; rfl)
  next =>
  split
  next h => exact letter (by decide) (by rw [h]; rfl)
  next =>
  split
  next h => exact letter (by decide) (by rw [h]; rfl)
  next =>
  split
  next h => exact letter (by decide) (by rw [h]; rfl)
  next =>
  split
  next h => exact letter (by decide) (by rw [h]; rfl)
  next =>
  split
  next h => exact reading_control isKey ps stack h rest
  next hcontrol =>
    refine reading_of_step ?_ rest
    show (if c = '"' then _ else _) = _
    rw [if_neg hquote, if_neg hslash, if_neg hcontrol]

theorem reading_escapes (cs rest : List Char) :
    reading ⟨.text isKey ps .plain, stack⟩ (cs.flatMap escape ++ rest) =
      reading ⟨.text isKey ((cs.map .char).reverse ++ ps) .plain, stack⟩ rest := by
  induction cs generalizing ps with
  | nil => rfl
  | cons c cs ih =>
    rw [List.flatMap_cons, List.append_assoc, reading_escape, ih, List.map_cons, List.reverse_cons,
      List.append_assoc, List.singleton_append]

end

theorem reading_quoted (s : String) (stack : List Frame) (rest : List Char) :
    reading ⟨.value, stack⟩ (quoted s ++ rest) =
      reading (deliver (.string (s.toList.map .char)) stack) rest := by
  rw [quoted, List.append_assoc, List.cons_append, reading_of_step rfl, reading_escapes,
    List.append_nil]
  refine (reading_of_step ?_ rest)
  show some (deliver (.string (s.toList.map .char).reverse.reverse) stack) = _
  rw [List.reverse_reverse]

/-- a key, where one may stand -/
theorem reading_key {mode : Mode} (hmode : mode = .firstKey ∨ mode = .key) (key : String)
    (members : List (List Piece × Source)) (stack : List Frame) (rest : List Char) :
    reading ⟨mode, .object members [] :: stack⟩ (quoted key ++ rest) =
      reading ⟨.colon, .object members (key.toList.map .char) :: stack⟩ rest := by
  have hquote : step ⟨mode, .object members [] :: stack⟩ '"' =
      some ⟨.text true [] .plain, .object members [] :: stack⟩ := by
    obtain rfl | rfl := hmode <;> rfl
  rw [quoted, List.append_assoc, List.cons_append, reading_of_step hquote, reading_escapes,
    List.append_nil]
  refine reading_of_step ?_ rest
  show some (State.mk .colon (.object members (key.toList.map .char).reverse.reverse :: stack)) = _
  rw [List.reverse_reverse]

/-! ## blanks -/

def Waits (s : State) : Prop := ∀ c, isBlank c = true → step s c = some s

theorem Waits.reading {s : State} (h : Waits s) {cs : List Char}
    (hcs : ∀ c ∈ cs, isBlank c = true) (rest : List Char) :
    reading s (cs ++ rest) = Source.reading s rest := by
  induction cs with
  | nil => rfl
  | cons c cs ih =>
    obtain ⟨hc, hcs⟩ := List.forall_mem_cons.mp hcs
    rw [List.cons_append, reading_of_step (h c hc), ih hcs]

theorem isBlank_of_mem_newline {layout : Layout} {c : Char} (h : c ∈ layout.newline) :
    isBlank c = true := by
  cases layout with
  | none => cases h
  | some depth =>
    obtain rfl | h := List.mem_cons.mp h
    · rfl
    · rw [List.eq_of_mem_replicate h]
      rfl

theorem Waits.reading_newline {s : State} (h : Waits s) (layout : Layout) (rest : List Char) :
    Source.reading s (layout.newline ++ rest) = Source.reading s rest :=
  h.reading (fun _ => isBlank_of_mem_newline) rest

section
variable (stack : List Frame)

theorem waits_value : Waits ⟨.value, stack⟩ := fun c hc => by simp only [step, hc, if_true]

theorem waits_firstItem : Waits ⟨.firstItem, stack⟩ := fun c hc => by
  simp only [step, hc, if_true]

theorem waits_firstKey : Waits ⟨.firstKey, stack⟩ := fun c hc => by simp only [step, hc, if_true]

theorem waits_key : Waits ⟨.key, stack⟩ := fun c hc => by simp only [step, hc, if_true]

theorem waits_next : Waits ⟨.next, stack⟩ := fun c hc => by
  simp only [step, stepNext, hc, if_true]

theorem reading_colon (layout : Layout) (rest : List Char) :
    reading ⟨.colon, stack⟩ (layout.colon ++ rest) = reading ⟨.value, stack⟩ rest := by
  cases layout with
  | none => exact reading_of_step rfl rest
  | some depth => exact (reading_of_step rfl _).trans (reading_of_step rfl rest)

end

/-! ## where values end -/

theorem breaks_newline (layout : Layout) {rest : List Char} (h : Breaks rest) :
    Breaks (layout.newline ++ rest) := by
  cases layout with
  | none => exact h
  | some depth => exact .inr (.inr (.inr rfl))

theorem breaks_writeItems (layout : Layout) (items : List Json) {rest : List Char}
    (h : Breaks rest) : Breaks (writeItems layout items ++ rest) := by
  cases items with
  | nil => exact h
  | cons j items => exact .inl rfl

theorem breaks_writeMembers (layout : Layout) (members : List (String × Json)) {rest : List Char}
    (h : Breaks rest) : Breaks (writeMembers layout members ++ rest) := by
  cases members with
  | nil => exact h
  | cons m members => exact .inl rfl

/-! ## where values begin -/

theorem exists_write_eq_cons (layout : Layout) (j : Json) :
    ∃ c cs, write layout j = c :: cs ∧ isBlank c = false ∧ c ≠ ']' := by
  cases j with
  | null => exact ⟨_, _, rfl, rfl, by decide⟩
  | bool b => cases b <;> exact ⟨_, _, rfl, rfl, by decide⟩
  | number n =>
    have hproper := n.proper_numeral
    have htext : write layout (.number n) = n.numeral.chars := n.text_eq
    rw [htext, Numeral.chars]
    generalize n.numeral = n at hproper
    obtain ⟨neg, whole, fraction, exponent⟩ := n
    cases neg with
    | true => exact ⟨_, _, rfl, rfl, by decide⟩
    | false =>
      obtain ⟨d, ds, rfl⟩ := List.exists_cons_of_ne_nil hproper.whole_ne
      have hd : Digits.isDigit d = true := hproper.whole d List.mem_cons_self
      refine ⟨d, _, rfl, ?_, ne_of_isDigit hd rfl⟩
      simp only [isBlank, ne_of_isDigit hd (d := ' ') rfl, ne_of_isDigit hd (d := '\n') rfl,
        ne_of_isDigit hd (d := '\t') rfl, ne_of_isDigit hd (d := '\r') rfl, decide_false,
        Bool.or_self]
  | string s => exact ⟨_, _, rfl, rfl, by decide⟩
  | array items =>
    cases items with
    | nil => exact ⟨_, _, rfl, rfl, by decide⟩
    | cons j rest => exact ⟨_, _, rfl, rfl, by decide⟩
  | object members =>
    cases members with
    | nil => exact ⟨_, _, rfl, rfl, by decide⟩
    | cons m rest => exact ⟨_, _, rfl, rfl, by decide⟩

theorem reading_firstItem (layout : Layout) (j : Json) (stack : List Frame) (rest : List Char) :
    reading ⟨.firstItem, stack⟩ (write layout j ++ rest) =
      reading ⟨.value, stack⟩ (write layout j ++ rest) := by
  obtain ⟨c, cs, heq, hblank, hc⟩ := exists_write_eq_cons layout j
  rw [heq, List.cons_append]
  apply reading_congr
  simp only [step, hblank, hc, if_false, Bool.false_eq_true]

/-! ## whole values -/

theorem write_array_cons (layout : Layout) (j : Json) (items : List Json) :
    write layout (.array (j :: items)) = '[' :: layout.deeper.newline ++ write layout.deeper j ++
      writeItems layout.deeper items ++ layout.newline ++ [']'] :=
  rfl

theorem write_object_cons (layout : Layout) (key : String) (j : Json)
    (members : List (String × Json)) :
    write layout (.object ((key, j) :: members)) = '\x7b' :: layout.deeper.newline ++ quoted key ++
      layout.colon ++ write layout.deeper j ++ writeMembers layout.deeper members ++
        layout.newline ++ ['\x7d'] :=
  rfl

mutual

theorem reading_write (j : Json) (layout : Layout) (stack : List Frame) {rest : List Char}
    (hrest : Breaks rest) :
    reading ⟨.value, stack⟩ (write layout j ++ rest) = reading (deliver j.source stack) rest := by
  match j with
  | .null =>
    exact (reading_of_step rfl _).trans ((reading_of_step rfl _).trans
      ((reading_of_step rfl _).trans (reading_of_step rfl _)))
  | .bool true =>
    exact (reading_of_step rfl _).trans ((reading_of_step rfl _).trans
      ((reading_of_step rfl _).trans (reading_of_step rfl _)))
  | .bool false =>
    exact (reading_of_step rfl _).trans ((reading_of_step rfl _).trans
      ((reading_of_step rfl _).trans ((reading_of_step rfl _).trans (reading_of_step rfl _))))
  | .number n =>
    show reading _ (n.text ++ rest) = _
    rw [n.text_eq]
    exact reading_numeral n.proper_numeral stack hrest
  | .string s => exact reading_quoted s stack rest
  | .array [] => exact (reading_of_step rfl _).trans (reading_of_step rfl _)
  | .array (j :: items) =>
    have hclose : Breaks (layout.newline ++ ']' :: rest) := breaks_newline _ (.inr (.inl rfl))
    rw [write_array_cons]
    simp only [List.append_assoc, List.cons_append, List.nil_append]
    rw [reading_of_step rfl, (waits_firstItem _).reading_newline, reading_firstItem,
      reading_write j _ _ (breaks_writeItems _ _ hclose)]
    show reading ⟨.next, .array [j.source] :: stack⟩ _ = _
    rw [reading_writeItems items _ _ _ hclose, (waits_next _).reading_newline]
    refine reading_of_step ?_ rest
    show some (deliver (.array ((sources items).reverse ++ [j.source]).reverse) stack) = _
    rw [List.reverse_append, List.reverse_reverse, source, sources]
    rfl
  | .object [] => exact (reading_of_step rfl _).trans (reading_of_step rfl _)
  | .object ((key, j) :: members) =>
    have hclose : Breaks (layout.newline ++ '\x7d' :: rest) :=
      breaks_newline _ (.inr (.inr (.inl rfl)))
    rw [write_object_cons]
    simp only [List.append_assoc, List.cons_append, List.nil_append]
    rw [reading_of_step rfl, (waits_firstKey _).reading_newline, reading_key (.inl rfl),
      reading_colon, reading_write j _ _ (breaks_writeMembers _ _ hclose)]
    show reading ⟨.next, .object [(key.toList.map .char, j.source)] [] :: stack⟩ _ = _
    rw [reading_writeMembers members _ _ _ hclose, (waits_next _).reading_newline]
    refine reading_of_step ?_ rest
    show some (deliver (.object ((memberSources members).reverse ++
      [(key.toList.map Piece.char, j.source)]).reverse) stack) = _
    rw [List.reverse_append, List.reverse_reverse, source, memberSources]
    rfl

theorem reading_writeItems (items : List Json) (layout : Layout) (done : List Source)
    (stack : List Frame) {rest : List Char} (hrest : Breaks rest) :
    reading ⟨.next, .array done :: stack⟩ (writeItems layout items ++ rest) =
      reading ⟨.next, .array ((sources items).reverse ++ done) :: stack⟩ rest := by
  match items with
  | [] => rfl
  | j :: items =>
    rw [writeItems]
    simp only [List.append_assoc, List.cons_append]
    rw [reading_of_step rfl, (waits_value _).reading_newline,
      reading_write j _ _ (breaks_writeItems _ _ hrest)]
    show reading ⟨.next, .array (j.source :: done) :: stack⟩ _ = _
    rw [reading_writeItems items _ _ _ hrest, sources, List.reverse_cons, List.append_assoc,
      List.singleton_append]

theorem reading_writeMembers (members : List (String × Json)) (layout : Layout)
    (done : List (List Piece × Source)) (stack : List Frame) {rest : List Char}
    (hrest : Breaks rest) :
    reading ⟨.next, .object done [] :: stack⟩ (writeMembers layout members ++ rest) =
      reading ⟨.next, .object ((memberSources members).reverse ++ done) [] :: stack⟩ rest := by
  match members with
  | [] => rfl
  | (key, j) :: members =>
    rw [writeMembers]
    simp only [List.append_assoc, List.cons_append]
    rw [reading_of_step rfl, (waits_key _).reading_newline, reading_key (.inr rfl),
      reading_colon, reading_write j _ _ (breaks_writeMembers _ _ hrest)]
    show reading ⟨.next, .object ((key.toList.map .char, j.source) :: done) [] :: stack⟩ _ = _
    rw [reading_writeMembers members _ _ _ hrest, memberSources, List.reverse_cons,
      List.append_assoc, List.singleton_append]

end

/-- **What was written is read.** -/
theorem read_write (layout : Layout) (j : Json) :
    read (String.ofList (write layout j)) = some j.source := by
  have h : reading start (write layout j ++ []) = reading (deliver j.source []) [] :=
    reading_write j layout [] trivial
  rw [List.append_nil] at h
  rw [read, String.toList_ofList, readChars_eq]
  exact h

end Source

end QueryDesk.Json
