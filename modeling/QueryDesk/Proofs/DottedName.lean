import Mathlib.Data.List.Basic
import QueryDesk.Sql.Statement

/-!
# What an escaped name reads as

The grammar of a dotted name is stated apart from `split` and `quote`:

* `Doubled`        what may stand between the backticks of an identifier: backticks in pairs only;
* `IsWord`         a plain word that is not reserved;
* `IsIdentifier`   a word, or doubled text in backticks;
* `IsDotted`       identifiers with single dots between them;
* `IsLook`         a single `SELECT` or `DESCRIBE` of one dotted name.

`split` counts all backticks, and `isQuoted` looks at the first and the last character only.  A part
that passes `isQuoted` is left as it is, also when a single backtick inside closes it early.
`dotted_escape_iff` shows that this is the only way in which an escaped name fails to be a dotted
name: the reading of a name from the left is forced (`IsIdentifier.eq_of_append_eq`), so a part that
is no identifier is not repaired by what follows it.
-/

namespace QueryDesk.Sql.Identifier

/-! ## grammar -/

/-- text with its backticks in pairs -/
inductive Doubled : List Char → Prop
  | nil : Doubled []
  | plain {c : Char} {cs : List Char} : c ≠ tick → Doubled cs → Doubled (c :: cs)
  | pair {cs : List Char} : Doubled cs → Doubled (tick :: tick :: cs)

def IsLetter (c : Char) : Prop := 'A' ≤ c ∧ c ≤ 'Z' ∨ 'a' ≤ c ∧ c ≤ 'z' ∨ c = '_' ∨ c = '$'

/-- a letter, then letters and digits, and no reserved word in any mixture of cases -/
def IsWord (cs : List Char) : Prop :=
  (∃ c rest, cs = c :: rest ∧ IsLetter c ∧ ∀ d ∈ rest, IsLetter d ∨ '0' ≤ d ∧ d ≤ '9') ∧
    ∀ w ∈ reserved, cs.map Char.toUpper ≠ w.toList

def IsIdentifier (cs : List Char) : Prop :=
  IsWord cs ∨ ∃ inner, Doubled inner ∧ cs = tick :: inner ++ [tick]

inductive IsDotted : List Char → Prop
  | one {i : List Char} : IsIdentifier i → IsDotted i
  | more {i rest : List Char} : IsIdentifier i → IsDotted rest → IsDotted (i ++ '.' :: rest)

/-- a single look at one table -/
inductive IsLook : List Char → Prop
  | select {name : List Char} :
      IsDotted name → IsLook ("SELECT * FROM ".toList ++ name ++ " LIMIT 1000".toList)
  | describe {name : List Char} : IsDotted name → IsLook ("DESCRIBE ".toList ++ name)

/-! ## words -/

theorem isFirst_iff (c : Char) : isFirst c = true ↔ IsLetter c := by
  have hupper : c.isUpper = true ↔ 'A' ≤ c ∧ c ≤ 'Z' := decide_eq_true_iff
  have hlower : c.isLower = true ↔ 'a' ≤ c ∧ c ≤ 'z' :=
    Bool.and_eq_true_iff.trans (and_congr decide_eq_true_iff decide_eq_true_iff)
  have hletter : c.isAlpha = true ↔ c.isUpper = true ∨ c.isLower = true := Bool.or_eq_true_iff
  simp only [isFirst, IsLetter, Bool.or_eq_true, decide_eq_true_eq, hletter, hupper, hlower,
    or_assoc]

theorem isLater_iff (c : Char) : isLater c = true ↔ IsLetter c ∨ '0' ≤ c ∧ c ≤ '9' := by
  simp only [isLater, Bool.or_eq_true, isFirst_iff, Char.isDigit, Char.le_def, Bool.and_eq_true,
    decide_eq_true_eq]

theorem isBare_iff (part : List Char) : isBare part = true ↔ IsWord part := by
  have plain : isPlain part = true ↔
      ∃ c rest, part = c :: rest ∧ IsLetter c ∧ ∀ d ∈ rest, IsLetter d ∨ '0' ≤ d ∧ d ≤ '9' := by
    cases part with
    | nil => simp [isPlain]
    | cons c cs => simp [isPlain, isFirst_iff, isLater_iff]
  have free : (!isReserved part) = true ↔ ∀ w ∈ reserved, part.map Char.toUpper ≠ w.toList := by
    simp only [isReserved, Bool.not_eq_true', List.any_eq_false, decide_eq_true_eq, ne_eq]
  rw [isBare, Bool.and_eq_true, plain, free, IsWord]

theorem IsWord.dot_not_mem {cs : List Char} (h : IsWord cs) : '.' ∉ cs := by
  obtain ⟨⟨c, rest, rfl, hc, hrest⟩, -⟩ := h
  have letter : ¬ IsLetter '.' := by unfold IsLetter; decide
  intro hmem
  obtain rfl | hmem := List.mem_cons.mp hmem
  · exact letter hc
  · obtain h | h := hrest _ hmem
    · exact letter h
    · exact absurd h (by decide)

theorem IsWord.not_ticked {inner : List Char} : ¬ IsWord (tick :: inner) := by
  rintro ⟨⟨c, rest, heq, hc, -⟩, -⟩
  obtain ⟨rfl, -⟩ := List.cons.inj heq
  exact absurd hc (by unfold IsLetter; decide)

theorem IsWord.append_ne_ticked {cs : List Char} (h : IsWord cs) (t u : List Char) :
    cs ++ t ≠ tick :: u := by
  obtain ⟨⟨c, rest, rfl, -, -⟩, -⟩ := id h
  intro heq
  obtain ⟨rfl, -⟩ := List.cons.inj heq
  exact IsWord.not_ticked h

/-! ## doubled text -/

theorem Doubled.enclose (part : List Char) :
    Doubled (part.flatMap fun c => if c = tick then [tick, tick] else [c]) := by
  induction part with
  | nil => exact .nil
  | cons c cs ih =>
    rw [List.flatMap_cons]
    by_cases hc : c = tick
    · rw [if_pos hc]
      exact .pair ih
    · rw [if_neg hc]
      exact .plain hc ih

theorem Doubled.even {cs : List Char} (h : Doubled cs) : cs.count tick % 2 = 0 := by
  induction h with
  | nil => rfl
  | plain hc _ ih => rwa [List.count_cons_of_ne hc]
  | pair _ ih =>
    rw [List.count_cons_self, List.count_cons_self]
    omega

/-- a character other than a backtick stands behind whole pairs -/
theorem Doubled.even_before {cs : List Char} (h : Doubled cs) {a b : List Char} {c : Char}
    (hc : c ≠ tick) (heq : cs = a ++ c :: b) : a.count tick % 2 = 0 := by
  induction h generalizing a with
  | nil => simp at heq
  | plain hd _ ih =>
    cases a with
    | nil => rfl
    | cons e a =>
      obtain ⟨rfl, htail⟩ := List.cons.inj heq
      rw [List.count_cons_of_ne hd]
      exact ih htail
  | pair _ ih =>
    cases a with
    | nil => exact absurd (List.cons.inj heq).1 hc.symm
    | cons e a =>
      obtain ⟨rfl, hrest⟩ := List.cons.inj heq
      cases a with
      | nil => exact absurd (List.cons.inj hrest).1 hc.symm
      | cons e a =>
        obtain ⟨he, htail⟩ := List.cons.inj hrest
        have := ih htail
        subst he
        rw [List.count_cons_self, List.count_cons_self]
        omega

/-! ## the parts of a name -/

/-- a dot inside stands behind an odd number of backticks -/
def Uncut (part : List Char) : Prop := ∀ a b, part = a ++ '.' :: b → a.count tick % 2 = 1

/-- the first part, with a backtick open in front of it or not -/
theorem split_first {inside : Bool} {cs p : List Char} {ps : List (List Char)}
    (h : split inside cs = p :: ps) :
    (cs = p ∧ ps = [] ∨ ∃ rest, cs = p ++ '.' :: rest ∧ split false rest = ps ∧
      (inside.toNat + p.count tick) % 2 = 0) ∧
    ∀ a b, p = a ++ '.' :: b → (inside.toNat + a.count tick) % 2 = 1 := by
  induction cs generalizing inside p with
  | nil =>
    obtain ⟨rfl, rfl⟩ := List.cons.inj h
    exact ⟨.inl ⟨rfl, rfl⟩, fun a b hab => by simp at hab⟩
  | cons c cs ih =>
    -- in front of a part there stands `c`, which turns `inside` to `turned`
    have front : ∀ turned : Bool, extend c (split turned cs) = p :: ps →
        (c = '.' → inside = true) →
        (∀ n, (inside.toNat + (c :: n).count tick) % 2 = (turned.toNat + n.count tick) % 2) →
        (c :: cs = p ∧ ps = [] ∨ ∃ rest, c :: cs = p ++ '.' :: rest ∧ split false rest = ps ∧
          (inside.toNat + p.count tick) % 2 = 0) ∧
        ∀ a b, p = a ++ '.' :: b → (inside.toNat + a.count tick) % 2 = 1 := by
      intro turned heq hdot hcount
      obtain ⟨q, qs, hq⟩ := List.exists_cons_of_ne_nil (split_ne_nil turned cs)
      rw [hq] at heq
      obtain ⟨rfl, rfl⟩ := List.cons.inj heq
      obtain ⟨hwhole, hcut⟩ := ih hq
      refine ⟨?_, fun a b hab => ?_⟩
      · obtain ⟨rfl, rfl⟩ | ⟨rest, rfl, hrest, heven⟩ := hwhole
        · exact .inl ⟨rfl, rfl⟩
        · exact .inr ⟨rest, rfl, hrest, by rw [hcount, heven]⟩
      · cases a with
        | nil =>
          obtain ⟨rfl, -⟩ := List.cons.inj hab
          rw [hdot rfl]
          rfl
        | cons d a =>
          obtain ⟨rfl, htail⟩ := List.cons.inj hab
          rw [hcount]
          exact hcut a b htail
    unfold split at h
    split at h
    next hc =>
      subst hc
      refine front (!inside) h (fun hdot => absurd hdot (by decide)) fun n => ?_
      rw [List.count_cons_self]
      cases inside <;> simp <;> omega
    next hc =>
      split at h
      next hdot =>
        obtain ⟨rfl, rfl⟩ := hdot
        obtain ⟨rfl, hps⟩ := List.cons.inj h
        exact ⟨.inr ⟨cs, rfl, hps, rfl⟩, fun a b hab => by simp at hab⟩
      next hdot =>
        refine front inside h (fun hd => ?_) fun n => ?_
        · by_contra hinside
          exact hdot ⟨hd, by simpa using hinside⟩
        · rw [List.count_cons_of_ne hc]

theorem Uncut.of_split {cs p : List Char} {ps : List (List Char)} (h : split false cs = p :: ps) :
    Uncut p := fun a b hab => by
  simpa using (split_first h).2 a b hab

/-- doubled text in backticks is not cut either -/
theorem Doubled.uncut {inner : List Char} (h : Doubled inner) :
    Uncut (tick :: inner ++ [tick]) := by
  intro a b hab
  cases a with
  | nil => exact absurd (List.cons.inj hab).1 (by decide)
  | cons c a =>
    obtain ⟨rfl, htail⟩ := List.cons.inj hab
    -- the dot is not the closing backtick, so it stands in `inner`
    obtain ⟨b, hinner⟩ : ∃ b', inner = a ++ '.' :: b' := by
      obtain ⟨m, rfl, hm⟩ | ⟨m, rfl, hm⟩ := List.append_eq_append_iff.mp htail
      · cases m with
        | nil => exact absurd (List.cons.inj hm).1 (by decide)
        | cons d m => simp at hm
      · cases m with
        | nil => exact absurd (List.cons.inj hm).1 (by decide)
        | cons d m =>
          obtain ⟨rfl, -⟩ := List.cons.inj hm
          exact ⟨m, rfl⟩
    have := h.even_before (c := '.') (by decide) hinner
    rw [List.count_cons_self]
    omega

/-! ## quoting -/

theorem isQuoted_iff (part : List Char) :
    isQuoted part = true ↔ ∃ inner, part = tick :: inner ++ [tick] := by
  constructor
  · intro h
    simp only [isQuoted, Bool.and_eq_true, decide_eq_true_eq] at h
    obtain ⟨⟨hlen, hfirst⟩, hlast⟩ := h
    obtain ⟨c, cs, rfl⟩ := List.exists_cons_of_length_pos (by omega : 0 < part.length)
    obtain ⟨rfl⟩ := hfirst
    have hne : cs ≠ [] := by rintro rfl; simp at hlen
    refine ⟨cs.dropLast, ?_⟩
    rw [List.getLast?_cons_of_ne_nil hne, List.getLast?_eq_some_getLast hne] at hlast
    have hl : cs.getLast hne = tick := Option.some.inj hlast
    rw [List.cons_append, ← hl, List.dropLast_append_getLast]
  · rintro ⟨inner, rfl⟩
    rw [isQuoted, List.getLast?_concat]
    simp

theorem quote_cases (part : List Char) :
    (∃ inner, part = tick :: inner ++ [tick]) ∧ quote part = part ∨
      IsWord part ∧ quote part = part ∨
      ∃ inner, Doubled inner ∧ quote part = tick :: inner ++ [tick] := by
  unfold quote
  split
  next h =>
    rw [Bool.or_eq_true, isQuoted_iff, isBare_iff] at h
    exact h.elim (fun hq => .inl ⟨hq, rfl⟩) fun hw => .inr (.inl ⟨hw, rfl⟩)
  next => exact .inr (.inr ⟨_, .enclose part, rfl⟩)

theorem quote_ticked (inner : List Char) :
    quote (tick :: inner ++ [tick]) = tick :: inner ++ [tick] := by
  rw [quote, (isQuoted_iff _).mpr ⟨inner, rfl⟩]
  rfl

theorem isIdentifier_quote {part : List Char}
    (h : ∀ inner, part = tick :: inner ++ [tick] → Doubled inner) : IsIdentifier (quote part) := by
  obtain ⟨⟨inner, hpart⟩, heq⟩ | ⟨hword, heq⟩ | hdoubled := quote_cases part
  · exact .inr ⟨inner, h inner hpart, heq.trans hpart⟩
  · exact .inl (by rwa [heq])
  · exact .inr hdoubled

/-! ## joining -/

theorem join_singleton (p : List Char) : join [p] = p := by
  simp [join, List.intercalate]

theorem join_cons_cons (p q : List Char) (ps : List (List Char)) :
    join (p :: q :: ps) = p ++ '.' :: join (q :: ps) := by
  simp [join, List.intercalate]

theorem isDotted_join {ps : List (List Char)} (hne : ps ≠ []) (h : ∀ p ∈ ps, IsIdentifier p) :
    IsDotted (join ps) := by
  induction ps with
  | nil => exact absurd rfl hne
  | cons p ps ih =>
    obtain ⟨hp, hps⟩ := List.forall_mem_cons.mp h
    cases ps with
    | nil =>
      rw [join_singleton]
      exact .one hp
    | cons q ps =>
      rw [join_cons_cons]
      exact .more hp (ih (List.cons_ne_nil _ _) hps)

/-! ## reading from the left -/

/-- the end of the text, or a dot -/
def Breaks (tail : List Char) : Prop := tail = [] ∨ ∃ rest, tail = '.' :: rest

theorem Breaks.head {c : Char} {tail : List Char} (h : Breaks (c :: tail)) : c = '.' := by
  obtain h | ⟨rest, h⟩ := h
  · cases h
  · exact (List.cons.inj h).1

theorem IsDotted.first {text : List Char} (h : IsDotted text) :
    ∃ i tail, IsIdentifier i ∧ text = i ++ tail ∧ Breaks tail ∧
      ∀ rest, tail = '.' :: rest → IsDotted rest := by
  cases h with
  | one hi => exact ⟨text, [], hi, (List.append_nil _).symm, .inl rfl, fun _ h => by cases h⟩
  | @more i rest hi hrest =>
    refine ⟨i, '.' :: rest, hi, rfl, .inr ⟨rest, rfl⟩, fun r hr => ?_⟩
    exact (List.cons.inj hr).2 ▸ hrest

theorem eq_of_dotless {i j t u : List Char} (hi : '.' ∉ i) (hj : '.' ∉ j) (ht : Breaks t)
    (hu : Breaks u) (heq : i ++ t = j ++ u) : i = j := by
  obtain ⟨m, rfl, hm⟩ | ⟨m, rfl, hm⟩ := List.append_eq_append_iff.mp heq
  · cases m with
    | nil => exact (List.append_nil _).symm
    | cons c m =>
      have : c = '.' := Breaks.head (hm ▸ ht)
      exact absurd (by simp [this]) hj
  · cases m with
    | nil => exact List.append_nil _
    | cons c m =>
      have : c = '.' := Breaks.head (hm ▸ hu)
      exact absurd (by simp [this]) hi

/-- what stands in backticks and is not cut ends where an identifier in backticks ends -/
theorem eq_of_ticked {inner d t u : List Char} (hcut : Uncut (tick :: inner ++ [tick]))
    (heven : t ≠ [] → (tick :: inner ++ [tick]).count tick % 2 = 0) (hd : Doubled d)
    (ht : Breaks t) (hu : Breaks u)
    (heq : tick :: inner ++ [tick] ++ t = tick :: d ++ [tick] ++ u) : inner = d := by
  have heq : inner ++ tick :: t = d ++ tick :: u := by simpa using heq
  obtain ⟨m, rfl, hm⟩ | ⟨m, rfl, hm⟩ := List.append_eq_append_iff.mp heq
  · -- the closing backtick of `inner` lies in `d`, and a dot follows it: half a pair
    cases m with
    | nil => exact (List.append_nil _).symm
    | cons c m =>
      obtain ⟨rfl, rfl⟩ := List.cons.inj hm
      cases m with
      | nil => exact absurd ht.head (by decide)
      | cons c m =>
        have hdot : c = '.' := ht.head
        subst hdot
        have hodd := hd.even_before (a := inner ++ [tick]) (b := m) (c := '.') (by decide) (by simp)
        have := heven (by simp)
        simp only [List.cons_append, List.count_cons_self, List.count_append, List.count_nil]
          at hodd this
        omega
  · -- the closing backtick of `d` lies in `inner`, and a dot follows it: it would have been cut
    cases m with
    | nil => exact List.append_nil _
    | cons c m =>
      obtain ⟨rfl, rfl⟩ := List.cons.inj hm
      cases m with
      | nil => exact absurd hu.head (by decide)
      | cons c m =>
        have hdot : c = '.' := hu.head
        subst hdot
        have hodd := hcut (tick :: d ++ [tick]) (m ++ [tick]) (by simp)
        have := hd.even
        simp only [List.cons_append, List.count_cons_self, List.count_append,
          List.count_nil] at hodd
        omega

/-- **The reading is forced.**  A quoted part in front of a dot or the end is what is read there. -/
theorem IsIdentifier.eq_of_append_eq {part i t u : List Char} (hi : IsIdentifier i)
    (hcut : Uncut part) (heven : t ≠ [] → part.count tick % 2 = 0) (ht : Breaks t) (hu : Breaks u)
    (heq : quote part ++ t = i ++ u) : quote part = i := by
  have ticked : ∀ inner, quote part = tick :: inner ++ [tick] → Uncut (tick :: inner ++ [tick]) →
      (t ≠ [] → (tick :: inner ++ [tick]).count tick % 2 = 0) → quote part = i := by
    intro inner hq hcut heven
    rw [hq] at heq ⊢
    obtain hword | ⟨d, hd, rfl⟩ := hi
    · exact absurd heq.symm (hword.append_ne_ticked _ _)
    · rw [eq_of_ticked hcut heven hd ht hu heq]
  obtain ⟨⟨inner, hpart⟩, hq⟩ | ⟨hword, hq⟩ | ⟨inner, hinner, hq⟩ := quote_cases part
  · exact ticked inner (hq.trans hpart) (hpart ▸ hcut) (hpart ▸ heven)
  · rw [hq] at heq ⊢
    obtain hi | ⟨d, -, rfl⟩ := hi
    · exact eq_of_dotless hword.dot_not_mem hi.dot_not_mem ht hu heq
    · exact absurd heq (hword.append_ne_ticked _ _)
  · refine ticked inner hq hinner.uncut fun _ => ?_
    have := hinner.even
    simp only [List.cons_append, List.count_cons_self, List.count_append, List.count_nil]
    omega

/-- a part in backticks that is read as an identifier is doubled inside -/
theorem IsIdentifier.doubled {inner : List Char} (h : IsIdentifier (tick :: inner ++ [tick])) :
    Doubled inner := by
  obtain hword | ⟨d, hd, heq⟩ := h
  · exact absurd hword IsWord.not_ticked
  · have : inner = d := by simpa using heq
    exact this ▸ hd

theorem isIdentifier_of_isDotted_join {ps : List (List Char)} {cs p : List Char}
    (hsplit : split false cs = p :: ps) (h : IsDotted (join ((p :: ps).map quote))) :
    ∀ q ∈ p :: ps, IsIdentifier (quote q) := by
  induction ps generalizing cs p with
  | nil =>
    obtain ⟨i, u, hi, heq, hu, -⟩ := h.first
    have hone : quote p ++ [] = i ++ u := by simpa [join, List.intercalate] using heq
    have := hi.eq_of_append_eq (.of_split hsplit) (fun hne => absurd rfl hne) (.inl rfl) hu hone
    simpa [this] using hi
  | cons q ps ih =>
    obtain ⟨⟨-, hnil⟩ | ⟨rest, rfl, hrest, heven⟩, -⟩ := split_first hsplit
    · cases hnil
    · obtain ⟨i, u, hi, heq, hu, hmore⟩ := h.first
      rw [List.map_cons, List.map_cons, join_cons_cons] at heq
      have hfirst := hi.eq_of_append_eq (.of_split hsplit) (fun _ => by simpa using heven)
        (.inr ⟨_, rfl⟩) hu heq
      rw [hfirst] at heq
      have hdot := hmore _ (List.append_cancel_left heq).symm
      exact List.forall_mem_cons.mpr ⟨hfirst ▸ hi, ih hrest hdot⟩

theorem toList_sql_data (name : String) : (Preview.data.sql name).toList =
    "SELECT * FROM ".toList ++ name.toList ++ " LIMIT 1000".toList := by
  show ("SELECT * FROM " ++ name ++ " LIMIT 1000").toList = _
  rw [String.toList_append, String.toList_append]

theorem toList_sql_details (name : String) :
    (Preview.details.sql name).toList = "DESCRIBE ".toList ++ name.toList := by
  show ("DESCRIBE " ++ name).toList = _
  rw [String.toList_append]

/-- **Escaped names.**  An escaped name is a dotted name if and only if no part of the name passes
for quoted with a single backtick inside, and exactly then a preview of it is a single look at one
table. -/
theorem dotted_escape_iff (target : String) :
    (IsDotted (escapeText target).toList ↔
      ∀ inner, tick :: inner ++ [tick] ∈ split false target.toList → Doubled inner) ∧
    ∀ look : Preview, IsLook (look.sql (escapeText target)).toList ↔
      IsDotted (escapeText target).toList := by
  have htext : (escapeText target).toList = join ((split false target.toList).map quote) := by
    simp [escapeText, escape]
  refine ⟨⟨fun h inner hmem => ?_, fun h => ?_⟩, fun look => ⟨fun h => ?_, fun h => ?_⟩⟩
  · rw [htext] at h
    obtain ⟨p, ps, hsplit⟩ := List.exists_cons_of_ne_nil (split_ne_nil false target.toList)
    rw [hsplit] at h hmem
    have := isIdentifier_of_isDotted_join hsplit h _ hmem
    rw [quote_ticked] at this
    exact this.doubled
  · rw [htext]
    refine isDotted_join (by simpa using split_ne_nil _ _) fun q hq => ?_
    obtain ⟨p, hp, rfl⟩ := List.mem_map.mp hq
    exact isIdentifier_quote fun inner hinner => h inner (hinner ▸ hp)
  · generalize htarget : escapeText target = name at h ⊢
    cases look with
    | data =>
      rw [toList_sql_data] at h
      generalize hsql : "SELECT * FROM ".toList ++ name.toList ++ " LIMIT 1000".toList = sql at h
      cases h with
      | select hname => rw [List.append_cancel_left (List.append_cancel_right hsql)]; exact hname
      | describe hname => simp at hsql
    | details =>
      rw [toList_sql_details] at h
      generalize hsql : "DESCRIBE ".toList ++ name.toList = sql at h
      cases h with
      | select hname => simp at hsql
      | describe hname => rw [List.append_cancel_left hsql]; exact hname
  · cases look with
    | data =>
      rw [toList_sql_data]
      exact .select h
    | details =>
      rw [toList_sql_details]
      exact .describe h

/-- a single backtick inside closes the name early, and what follows it is a statement of its own -/
theorem breaks_out :
    ¬ IsDotted (escapeText "\x60t\x60; DROP TABLE x; -- \x60").toList ∧
    Preview.data.sql (escapeText "\x60t\x60; DROP TABLE x; -- \x60") =
      "SELECT * FROM \x60t\x60; DROP TABLE x; -- \x60 LIMIT 1000" := by
  have hout : escapeText "\x60t\x60; DROP TABLE x; -- \x60" =
      "\x60t\x60; DROP TABLE x; -- \x60" := by decide +kernel
  refine ⟨fun h => ?_, by rw [hout]; decide +kernel⟩
  have hsplit : split false "\x60t\x60; DROP TABLE x; -- \x60".toList =
      [tick :: "t\x60; DROP TABLE x; -- ".toList ++ [tick]] := by decide +kernel
  have hjoin : (escapeText "\x60t\x60; DROP TABLE x; -- \x60").toList =
      join ([tick :: "t\x60; DROP TABLE x; -- ".toList ++ [tick]].map quote) := by decide +kernel
  have hpart := isIdentifier_of_isDotted_join hsplit (hjoin ▸ h) _ (List.mem_singleton.mpr rfl)
  rw [quote_ticked] at hpart
  exact absurd hpart.doubled.even (by decide +kernel)

end QueryDesk.Sql.Identifier
