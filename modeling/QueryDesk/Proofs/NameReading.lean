import Mathlib.Data.List.Forall2
import QueryDesk.Proofs.DottedName

/-!
# What an escaped name stands for

The grammar of `QueryDesk.Proofs.DottedName` says which texts are dotted names; here each of them is
read.

* `Undoubles`      text with its backticks in pairs, and the text with one for each pair;
* `Stands`         an identifier, and the name that it stands for: a word for itself, text in
  backticks for what is between them;
* `Denotes`        a dotted name, and the names that its identifiers stand for, in order;
* `Spelling`       a name as it may be written: bare, if it has no dot and no backtick, or in
  backticks with its own doubled.

A text denotes one list of names at most (`Denotes.unique`), since the reading from the left is
forced.  **`escape_denotes`**: names that are written down and escaped are denoted again.
-/

namespace QueryDesk.Sql.Identifier

/-! ## reading -/

inductive Undoubles : List Char → List Char → Prop
  | nil : Undoubles [] []
  | plain {c : Char} {cs name : List Char} : c ≠ tick → Undoubles cs name →
      Undoubles (c :: cs) (c :: name)
  | pair {cs name : List Char} : Undoubles cs name → Undoubles (tick :: tick :: cs) (tick :: name)

inductive Stands : List Char → List Char → Prop
  | word {cs : List Char} : IsWord cs → Stands cs cs
  | ticked {inner name : List Char} : Undoubles inner name → Stands (tick :: inner ++ [tick]) name

inductive Denotes : List Char → List (List Char) → Prop
  | one {i name : List Char} : Stands i name → Denotes i [name]
  | more {i name rest : List Char} {names : List (List Char)} : Stands i name →
      Denotes rest names → Denotes (i ++ '.' :: rest) (name :: names)

theorem Undoubles.doubled {cs name : List Char} (h : Undoubles cs name) : Doubled cs := by
  induction h with
  | nil => exact .nil
  | plain hc _ ih => exact .plain hc ih
  | pair _ ih => exact .pair ih

theorem Stands.isIdentifier {i name : List Char} (h : Stands i name) : IsIdentifier i := by
  cases h with
  | word hw => exact .inl hw
  | ticked hu => exact .inr ⟨_, hu.doubled, rfl⟩

/-! ## one reading at most -/

theorem Undoubles.unique {cs n m : List Char} (h : Undoubles cs n) (h' : Undoubles cs m) :
    n = m := by
  induction h generalizing m with
  | nil =>
    cases h'
    rfl
  | plain hc _ ih =>
    cases h' with
    | plain _ h' => rw [ih h']
    | pair _ => exact absurd rfl hc
  | pair _ ih =>
    cases h' with
    | plain hc _ => exact absurd rfl hc
    | pair h' => rw [ih h']

theorem Stands.unique {i n m : List Char} (h : Stands i n) (h' : Stands i m) : n = m := by
  generalize hi : i = j at h'
  cases h with
  | word hw =>
    cases h' with
    | word _ => exact hi
    | ticked _ =>
      rw [hi] at hw
      exact absurd hw IsWord.not_ticked
  | ticked hu =>
    cases h' with
    | word hw =>
      rw [← hi] at hw
      exact absurd hw IsWord.not_ticked
    | ticked hu' =>
      have hinner := List.append_cancel_right (List.cons.inj hi).2
      exact hu.unique (hinner ▸ hu')

theorem IsWord.tick_not_mem {cs : List Char} (h : IsWord cs) : tick ∉ cs := by
  obtain ⟨⟨c, rest, rfl, hc, hrest⟩, -⟩ := h
  have letter : ¬ IsLetter tick := by unfold IsLetter; decide
  intro hmem
  obtain rfl | hmem := List.mem_cons.mp hmem
  · exact letter hc
  · obtain h | h := hrest _ hmem
    · exact letter h
    · exact absurd h (by decide)

theorem IsIdentifier.quote_eq {i : List Char} (h : IsIdentifier i) : quote i = i := by
  obtain hword | ⟨inner, -, rfl⟩ := h
  · rw [quote, (isBare_iff i).mpr hword, Bool.or_true]
    rfl
  · exact quote_ticked inner

/-- an identifier is not cut, and has its backticks in pairs -/
theorem IsIdentifier.uncut {i : List Char} (h : IsIdentifier i) :
    Uncut i ∧ i.count tick % 2 = 0 := by
  obtain hword | ⟨inner, hd, rfl⟩ := h
  · refine ⟨?_, by rw [List.count_eq_zero.mpr hword.tick_not_mem]⟩
    rintro a b rfl
    exact absurd (by simp) hword.dot_not_mem
  · refine ⟨hd.uncut, ?_⟩
    have := hd.even
    simp only [List.cons_append, List.count_cons_self, List.count_append, List.count_nil]
    omega

theorem IsIdentifier.eq_of_append {i j t u : List Char} (hi : IsIdentifier i)
    (hj : IsIdentifier j) (ht : Breaks t) (hu : Breaks u) (heq : i ++ t = j ++ u) : i = j := by
  obtain ⟨hcut, heven⟩ := hi.uncut
  have h := hj.eq_of_append_eq hcut (fun _ => heven) ht hu
  rw [hi.quote_eq] at h
  exact h heq

theorem Denotes.unique {text : List Char} {ns ms : List (List Char)} (h : Denotes text ns)
    (h' : Denotes text ms) : ns = ms := by
  induction h generalizing ms with
  | @one i n hi =>
    generalize htext : i = text at h'
    cases h' with
    | one hj => rw [hi.unique (htext ▸ hj)]
    | @more j m rest ms hj _ =>
      -- the dot behind `j` cannot be missing behind `i`
      have heq : i ++ [] = j ++ '.' :: rest := (List.append_nil i).trans htext
      have hij := hi.isIdentifier.eq_of_append hj.isIdentifier (.inl rfl) (.inr ⟨rest, rfl⟩) heq
      rw [hij] at heq
      cases List.append_cancel_left heq
  | @more i n rest ns hi _ ih =>
    generalize htext : i ++ '.' :: rest = text at h'
    cases h' with
    | one hj =>
      have heq : i ++ '.' :: rest = text ++ [] := htext.trans (List.append_nil text).symm
      have hij := hi.isIdentifier.eq_of_append hj.isIdentifier (.inr ⟨rest, rfl⟩) (.inl rfl) heq
      rw [hij] at heq
      cases List.append_cancel_left heq
    | @more j m rest' ms hj hrest =>
      have hij := hi.isIdentifier.eq_of_append hj.isIdentifier (.inr ⟨rest, rfl⟩)
        (.inr ⟨rest', rfl⟩) htext
      subst hij
      obtain rfl := (List.cons.inj (List.append_cancel_left htext)).2
      rw [hi.unique hj, ih hrest]

/-! ## writing -/

inductive Spelling where
  | bare (name : String) (dotless : '.' ∉ name.toList) (tickless : tick ∉ name.toList)
  | ticked (name : String)

namespace Spelling

def name : Spelling → List Char
  | bare name _ _ => name.toList
  | ticked name => name.toList

def text : Spelling → List Char
  | bare name _ _ => name.toList
  | ticked name => enclose name.toList

def isTicked : Spelling → Bool
  | bare .. => false
  | ticked _ => true

end Spelling

/-- names with single dots between them, each spelled in its own way -/
def spell (ps : List Spelling) : String := String.ofList (join (ps.map Spelling.text))

theorem Undoubles.enclose (name : List Char) :
    Undoubles (name.flatMap fun c => if c = tick then [tick, tick] else [c]) name := by
  induction name with
  | nil => exact .nil
  | cons c cs ih =>
    rw [List.flatMap_cons]
    by_cases hc : c = tick
    · rw [if_pos hc, hc]
      exact .pair ih
    · rw [if_neg hc]
      exact .plain hc ih

theorem stands_enclose (name : List Char) : Stands (enclose name) name :=
  .ticked (.enclose name)

theorem Spelling.stands_quote (p : Spelling) : Stands (quote p.text) p.name := by
  cases p with
  | bare name dotless tickless =>
    show Stands (quote name.toList) name.toList
    have hq : isQuoted name.toList = false := by
      refine Bool.eq_false_iff.mpr fun h => tickless ?_
      obtain ⟨inner, he⟩ := (isQuoted_iff _).mp h
      rw [he]
      exact List.mem_cons_self
    rw [quote, hq, Bool.false_or]
    split
    · next hb => exact .word ((isBare_iff _).mp hb)
    · exact stands_enclose _
  | ticked name =>
    show Stands (quote (enclose name.toList)) name.toList
    rw [enclose, quote_ticked]
    exact stands_enclose name.toList

/-- what is written in backticks comes out as it went in -/
theorem Spelling.quote_of_isTicked {p : Spelling} (h : p.isTicked = true) :
    quote p.text = p.text := by
  cases p with
  | bare name dotless tickless => cases h
  | ticked name => exact quote_ticked _

/-! ## cutting what was joined -/

theorem foldr_extend (cs part : List Char) (parts : List (List Char)) :
    cs.foldr extend (part :: parts) = (cs ++ part) :: parts := by
  induction cs with
  | nil => rfl
  | cons c cs ih => rw [List.foldr_cons, ih, extend, List.cons_append]

theorem split_plain_append {cs : List Char} (hdot : '.' ∉ cs) (htick : tick ∉ cs)
    (t : List Char) : split false (cs ++ t) = cs.foldr extend (split false t) := by
  induction cs with
  | nil => rfl
  | cons c cs ih =>
    obtain ⟨hcd, hdot⟩ := not_or.mp (fun h => hdot (List.mem_cons.mpr h))
    obtain ⟨hct, htick⟩ := not_or.mp (fun h => htick (List.mem_cons.mpr h))
    rw [List.cons_append, split, if_neg (Ne.symm hct), if_neg (fun h => hcd h.1.symm),
      ih hdot htick, List.foldr_cons]

/-- inside of backticks no dot cuts -/
theorem split_doubled_append {inner : List Char} (h : Doubled inner) (t : List Char) :
    split true (inner ++ t) = inner.foldr extend (split true t) := by
  induction h with
  | nil => rfl
  | plain hc _ ih =>
    rw [List.cons_append, split, if_neg hc, if_neg (fun h => Bool.noConfusion h.2), ih,
      List.foldr_cons]
  | pair _ ih =>
    rw [List.cons_append, List.cons_append, split, if_pos rfl, Bool.not_true, split, if_pos rfl,
      Bool.not_false, ih, List.foldr_cons, List.foldr_cons]

theorem Spelling.split_append (p : Spelling) (t : List Char) :
    split false (p.text ++ t) = p.text.foldr extend (split false t) := by
  cases p with
  | bare name dotless tickless => exact split_plain_append dotless tickless t
  | ticked name =>
    show split false (enclose name.toList ++ t) = (enclose name.toList).foldr extend _
    rw [enclose, List.append_assoc, List.cons_append, split, if_pos rfl, Bool.not_false,
      split_doubled_append (.enclose _), List.singleton_append, split, if_pos rfl, Bool.not_true,
      List.foldr_append, List.foldr_cons]
    rfl

/-- a spelled name is cut where it was joined -/
theorem split_join (p : Spelling) (ps : List Spelling) :
    split false (join ((p :: ps).map Spelling.text)) = (p :: ps).map Spelling.text := by
  induction ps generalizing p with
  | nil =>
    have h := p.split_append []
    rw [List.append_nil, split, foldr_extend, List.append_nil] at h
    rw [List.map_singleton, join_singleton, h]
  | cons q ps ih =>
    have hdot : ∀ rest, split false ('.' :: rest) = [] :: split false rest := fun rest => by
      rw [split, if_neg (by decide), if_pos ⟨rfl, rfl⟩]
    rw [List.map_cons, List.map_cons, join_cons_cons, p.split_append, hdot, ← List.map_cons, ih,
      foldr_extend, List.append_nil]

theorem denotes_join {is ns : List (List Char)} (h : List.Forall₂ Stands is ns) (hne : is ≠ []) :
    Denotes (join is) ns := by
  induction h with
  | nil => exact absurd rfl hne
  | @cons i n is ns hi hrest ih =>
    cases hrest with
    | nil =>
      rw [join_singleton]
      exact .one hi
    | cons hj hrest =>
      rw [join_cons_cons]
      exact .more hi (ih (List.cons_ne_nil _ _))

/-- **Names that are spelled and escaped are denoted again**, the same ones in the same order and no
others; and each part that was spelled in backticks comes out as it went in. -/
theorem escape_denotes (p : Spelling) (ps : List Spelling) :
    (∀ names, Denotes (escapeText (spell (p :: ps))).toList names ↔
      names = (p :: ps).map Spelling.name) ∧
    ∃ parts, (escapeText (spell (p :: ps))).toList = join parts ∧
      List.Forall₂ (fun q part => Stands part q.name ∧ (q.isTicked = true → part = q.text))
        (p :: ps) parts := by
  have htext : (escapeText (spell (p :: ps))).toList =
      join ((p :: ps).map fun q => quote q.text) := by
    rw [escapeText, spell, String.toList_ofList, String.toList_ofList, escape, split_join,
      List.map_map]
    rfl
  have hparts : List.Forall₂
      (fun q part => Stands part q.name ∧ (q.isTicked = true → part = q.text)) (p :: ps)
      ((p :: ps).map fun q => quote q.text) :=
    List.forall₂_map_right_iff.mpr (List.forall₂_same.mpr fun q _ =>
      ⟨q.stands_quote, q.quote_of_isTicked⟩)
  have hreads : Denotes (join ((p :: ps).map fun q => quote q.text))
      ((p :: ps).map Spelling.name) := by
    refine denotes_join ?_ (List.cons_ne_nil _ _)
    exact List.forall₂_map_left_iff.mpr (List.forall₂_map_right_iff.mpr
      (List.forall₂_same.mpr fun q _ => q.stands_quote))
  rw [htext]
  refine ⟨fun names => ⟨fun h => h.unique hreads, ?_⟩, _, rfl, hparts⟩
  rintro rfl
  exact hreads

/-- dots and backticks of a name stay inside of it, and a reserved word is quoted -/
example : escapeText (spell [.ticked "a.b\x60", .ticked "", .bare "select" (by decide) (by decide)])
    = "\x60a.b\x60\x60\x60.\x60\x60.\x60select\x60" := by decide +kernel

end QueryDesk.Sql.Identifier
