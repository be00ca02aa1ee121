import QueryDesk.Proofs.NameReading

/-!
# Escaping twice

A part that has been quoted is cut nowhere, and it leaves the splitter outside of backticks whenever
the part did (`Uncut.quote`, `even_quote`).  So what was escaped is cut where it was joined, whether
the backticks of the name were balanced or not.

* `Uncut.split_append`      the splitter goes over a whole part in one stride;
* `split_join_quote`        the parts of an escaped name are the quoted parts of the name;
* **`escapeText_settles`**  escaping a second time changes nothing.
-/

namespace QueryDesk.Sql.Identifier

/-! ## a part at a time -/

/-- what is inside of backticks at every dot is not cut, and the count of its backticks says where
the rest begins -/
theorem split_append {inside : Bool} {part : List Char}
    (h : ∀ a b, part = a ++ '.' :: b → (inside.toNat + a.count tick) % 2 = 1) (t : List Char) :
    split inside (part ++ t) =
      part.foldr extend (split (decide ((inside.toNat + part.count tick) % 2 = 1)) t) := by
  induction part generalizing inside with
  | nil => cases inside <;> rfl
  | cons c cs ih =>
    rw [List.cons_append, List.foldr_cons, split]
    by_cases hc : c = tick
    · subst hc
      have hturn : ∀ n, (inside.toNat + (n + 1)) % 2 = ((!inside).toNat + n) % 2 := by
        intro n
        cases inside <;> simp <;> omega
      rw [if_pos rfl, List.count_cons_self, hturn, ih fun a b hab => ?_]
      have := h (tick :: a) b (by rw [hab, List.cons_append])
      rwa [List.count_cons_self, hturn] at this
    · have hdot : ¬ (c = '.' ∧ inside = false) := by
        rintro ⟨rfl, rfl⟩
        have := h [] cs rfl
        simp at this
      rw [if_neg hc, if_neg hdot, List.count_cons_of_ne hc, ih fun a b hab => ?_]
      have := h (c :: a) b (by rw [hab, List.cons_append])
      rwa [List.count_cons_of_ne hc] at this

theorem Uncut.split_append {part : List Char} (h : Uncut part) (t : List Char) :
    split false (part ++ t) =
      part.foldr extend (split (decide (part.count tick % 2 = 1)) t) := by
  have hinside : ∀ a b, part = a ++ '.' :: b → (false.toNat + a.count tick) % 2 = 1 := by
    simpa [Uncut] using h
  simpa using Identifier.split_append hinside t

theorem Uncut.split_eq {part : List Char} (h : Uncut part) : split false part = [part] := by
  have := h.split_append []
  rwa [List.append_nil, split, foldr_extend, List.append_nil] at this

/-- a dot behind a part with its backticks in pairs ends it -/
theorem Uncut.split_append_dot {part : List Char} (h : Uncut part) (heven : part.count tick % 2 = 0)
    (rest : List Char) : split false (part ++ '.' :: rest) = part :: split false rest := by
  have houtside : decide (part.count tick % 2 = 1) = false := by
    rw [heven]
    rfl
  have hdot : split false ('.' :: rest) = [] :: split false rest := by
    rw [split, if_neg (by decide), if_pos ⟨rfl, rfl⟩]
  rw [h.split_append, houtside, hdot, foldr_extend, List.append_nil]

/-! ## quoted parts -/

theorem IsWord.uncut {part : List Char} (h : IsWord part) : Uncut part := by
  rintro a b rfl
  exact absurd (List.mem_append_right a List.mem_cons_self) h.dot_not_mem

theorem Uncut.quote {part : List Char} (h : Uncut part) : Uncut (quote part) := by
  obtain ⟨-, hq⟩ | ⟨-, hq⟩ | ⟨inner, hd, hq⟩ := quote_cases part
  · rwa [hq]
  · rwa [hq]
  · rw [hq]
    exact hd.uncut

theorem even_quote {part : List Char} (h : part.count tick % 2 = 0) :
    (quote part).count tick % 2 = 0 := by
  obtain ⟨-, hq⟩ | ⟨-, hq⟩ | ⟨inner, hd, hq⟩ := quote_cases part
  · rwa [hq]
  · rwa [hq]
  · have := hd.even
    rw [hq, List.cons_append, List.count_cons_self, List.count_append]
    show (_ + 1 + 1) % 2 = 0
    omega

theorem quote_quote (part : List Char) : quote (quote part) = quote part := by
  obtain ⟨-, hq⟩ | ⟨-, hq⟩ | ⟨inner, -, hq⟩ := quote_cases part
  · rw [hq, hq]
  · rw [hq, hq]
  · rw [hq, quote_ticked]

/-! ## escaped names -/

theorem split_join_quote {cs p : List Char} {ps : List (List Char)}
    (h : split false cs = p :: ps) :
    split false (join ((p :: ps).map quote)) = (p :: ps).map quote := by
  have huncut : Uncut (quote p) := (Uncut.of_split h).quote
  induction ps generalizing cs p with
  | nil => rw [List.map_singleton, join_singleton, huncut.split_eq]
  | cons q ps ih =>
    obtain ⟨⟨-, hnil⟩ | ⟨rest, -, hrest, heven⟩, -⟩ := split_first h
    · cases hnil
    · have heven : p.count tick % 2 = 0 := by simpa using heven
      rw [List.map_cons, List.map_cons, join_cons_cons,
        huncut.split_append_dot (even_quote heven), ← List.map_cons,
        ih hrest (Uncut.of_split hrest).quote]

theorem split_escape (name : List Char) :
    split false (escape name) = (split false name).map quote := by
  obtain ⟨p, ps, h⟩ := List.exists_cons_of_ne_nil (split_ne_nil false name)
  rw [escape, h, split_join_quote h]

theorem escape_escape (name : List Char) : escape (escape name) = escape name := by
  have hquote : quote ∘ quote = quote := funext quote_quote
  rw [escape, split_escape, List.map_map, hquote, escape]

/-- **Escaping settles a name.**  What was escaped is its own escape, and its parts are the quoted
parts of the name, as many and in their order. -/
theorem escapeText_settles (s : String) :
    escapeText (escapeText s) = escapeText s ∧
      split false (escapeText s).toList = (split false s.toList).map quote := by
  have htext : (escapeText s).toList = escape s.toList := String.toList_ofList
  refine ⟨?_, by rw [htext, split_escape]⟩
  show String.ofList (escape (escapeText s).toList) = String.ofList (escape s.toList)
  rw [htext, escape_escape]

/-- a backtick that nothing closes takes the rest of the name into its part -/
example : split false (escapeText "a.\x60b.c").toList =
    ["a".toList, "\x60\x60\x60b.c\x60".toList] := by decide +kernel

end QueryDesk.Sql.Identifier
