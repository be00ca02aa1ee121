import QueryDesk.Http.Domain
import QueryDesk.Number.Digits
import QueryDesk.Proofs.PunycodeText

/-!
# One form of a name

* `ascii?_cases`       the form of a plain name, and of one that is taken apart;
* `Settled`            a part in its form, by its characters;
* `settled_of_part?`   the parts that are read are settled;
* `part?_encodePart`   a settled part is read back from its form;
* `ascii?_of_numeric`  digits and dots are a form.

**`ascii?_ascii?`**: the form of a name is its own form.
-/

namespace QueryDesk.Domain

open Text

/-! ## the form of a name -/

theorem ascii?_of_plain {name : List Char} (h : isPlain name = true)
    (hallowed : (name.map Char.toLower).any isForbidden = false) :
    ascii? name = some (name.map Char.toLower) := by
  rw [ascii?, if_pos h]
  show (if (name.map Char.toLower).any isForbidden = true then none else some _) = _
  rw [hallowed]
  rfl

theorem ascii?_of_parts {name : List Char} {parts : List (List Char)} (h : isPlain name = false)
    (hparts : parts? name = some parts)
    (hturns : (parts.any Direction.turns && !parts.all Direction.keeps) = false)
    (hallowed : (List.intercalate ['.'] (parts.map encodePart)).any isForbidden = false) :
    ascii? name = some (List.intercalate ['.'] (parts.map encodePart)) := by
  rw [ascii?, h, hparts]
  show (if (parts.any Direction.turns && !parts.all Direction.keeps) = true then _ else
    if (List.intercalate ['.'] (parts.map encodePart)).any isForbidden = true then none
    else some _) = _
  rw [hturns, hallowed]
  rfl

/-- the forms of a plain name and of one that is taken apart -/
theorem ascii?_cases {name form : List Char} (h : ascii? name = some form) :
    form.any isForbidden = false ∧
      (isPlain name = true ∧ form = name.map Char.toLower ∨
        isPlain name = false ∧ ∃ parts, parts? name = some parts ∧
          (parts.any Direction.turns && !parts.all Direction.keeps) = false ∧
          form = List.intercalate ['.'] (parts.map encodePart)) := by
  have hallowed : ∀ {cs : List Char}, (if cs.any isForbidden then none else some cs) = some form →
      cs.any isForbidden = false ∧ form = cs := by
    intro cs hcs
    split at hcs
    · cases hcs
    · next hany => exact ⟨eq_false_of_ne_true hany, (Option.some.inj hcs).symm⟩
  rw [ascii?] at h
  split at h
  · next hplain =>
    obtain ⟨hany, rfl⟩ := hallowed h
    exact ⟨hany, .inl ⟨hplain, rfl⟩⟩
  · next hplain =>
    obtain ⟨parts, hparts, h⟩ := Option.bind_eq_some_iff.mp h
    split at h
    · cases h
    · next hturns =>
      obtain ⟨hany, rfl⟩ := hallowed h
      exact ⟨hany, .inr ⟨eq_false_of_ne_true hplain, parts, hparts, eq_false_of_ne_true hturns,
        rfl⟩⟩

theorem not_forbidden_of_ascii? {name form : List Char} (h : ascii? name = some form) {c : Char}
    (hc : c ∈ form) : isForbidden c = false :=
  eq_false_of_ne_true (List.any_eq_false.mp (ascii?_cases h).1 c hc)

/-! ## characters in their form -/

/-- a character of ASCII that is no capital -/
def Low (c : Char) : Prop := isAscii c = true ∧ c.toLower = c

private theorem ascii_all : ∀ n < 0x80, isAscii (Char.ofNat n).toLower = true ∧
    (Char.ofNat n).toLower.toLower = (Char.ofNat n).toLower ∧
    ((Char.ofNat n).toLower = '.' ↔ Char.ofNat n = '.') := by decide

theorem ascii_facts {c : Char} (h : isAscii c = true) :
    Low c.toLower ∧ (c.toLower = '.' ↔ c = '.') := by
  have hfacts := ascii_all c.toNat (of_decide_eq_true h)
  rw [Char.ofNat_toNat] at hfacts
  exact ⟨⟨hfacts.1, hfacts.2.1⟩, hfacts.2.2⟩

theorem low_dot : Low '.' := ⟨rfl, rfl⟩

private theorem digit_all : ∀ n < 36, isAscii (Punycode.digit n) = true ∧
    (Punycode.digit n).toLower = Punycode.digit n ∧ Punycode.digit n ≠ '.' := by decide

theorem map_toLower_of_low {cs : List Char} (h : ∀ c ∈ cs, Low c) : cs.map Char.toLower = cs := by
  rw [List.map_congr_left fun c hc => (h c hc).2]
  exact List.map_id' cs

theorem low_of_canonical? {c : Char} (h : canonical? c = some [c]) (hc : isAscii c = true) :
    Low c := by
  rw [canonical?, if_pos hc] at h
  exact ⟨hc, (List.cons.inj (Option.some.inj h)).1⟩

theorem canonical?_of_low {c : Char} (h : Low c) : canonical? c = some [c] := by
  rw [canonical?, if_pos h.1, h.2]

/-! ## parts in their form -/

/-- a part that may stand in a name and is not read as the code of another one -/
structure Settled (p : List Char) : Prop where
  isPart : isPart p = true
  dot : '.' ∉ p
  mark : p.all isAscii = true → p.take 4 ≠ codeMark

theorem Settled.low {p : List Char} (h : Settled p) {c : Char} (hc : c ∈ p)
    (hascii : isAscii c = true) : Low c := by
  have hpart := h.isPart
  rw [Domain.isPart, Bool.and_eq_true, Bool.and_eq_true, Bool.and_eq_true] at hpart
  exact low_of_canonical? (of_decide_eq_true (List.all_eq_true.mp hpart.1.1.2 c hc)) hascii

theorem Settled.mem_encodePart {p : List Char} (h : Settled p) {c : Char}
    (hc : c ∈ encodePart p) : Low c ∧ c ≠ '.' := by
  have hkept : ∀ {d : Char}, d ∈ p → isAscii d = true → Low d ∧ d ≠ '.' := by
    intro d hd hascii
    refine ⟨h.low hd hascii, ?_⟩
    rintro rfl
    exact h.dot hd
  rw [encodePart] at hc
  split at hc
  · next hall => exact hkept hc (List.all_eq_true.mp hall c hc)
  · rcases List.mem_append.mp hc with hc | hc
    · simp only [codeMark, List.mem_cons, List.not_mem_nil, or_false] at hc
      rcases hc with rfl | rfl | rfl | rfl <;> exact ⟨⟨rfl, rfl⟩, by decide⟩
    · obtain ⟨code, heq, hdigits, -⟩ := Punycode.exists_encode_eq p
      rw [heq, List.mem_append] at hc
      rcases hc with hc | hc
      · split at hc
        · cases hc
        · rcases List.mem_append.mp hc with hc | hc
          · obtain ⟨hmem, hbasic⟩ := List.mem_filter.mp hc
            exact hkept hmem hbasic
          · rw [List.mem_singleton.mp hc]
            exact ⟨⟨rfl, rfl⟩, by decide⟩
      · obtain ⟨n, hn, rfl⟩ := hdigits c hc
        have hfacts := digit_all n hn
        exact ⟨⟨hfacts.1, hfacts.2.1⟩, hfacts.2.2⟩

theorem part?_encodePart {p : List Char} (h : Settled p) : part? (encodePart p) = some p := by
  rw [encodePart]
  split
  · next hall =>
    rw [part?, if_neg (h.mark hall)]
    exact if_pos h.isPart
  · next hall =>
    have hcode : (codeMark ++ Punycode.encode p).take 4 = codeMark := rfl
    have hrest : (codeMark ++ Punycode.encode p).drop 4 = Punycode.encode p := rfl
    rw [part?, if_pos hcode, hrest, Punycode.decode?_encode, Option.filter_some,
      eq_false_of_ne_true hall]
    exact if_pos h.isPart

theorem settled_of_part? {written p : List Char} (hdot : '.' ∉ written)
    (h : part? written = some p) : Settled p := by
  rw [part?] at h
  split at h
  · obtain ⟨decoded, hdecoded, h⟩ := Option.bind_eq_some_iff.mp h
    obtain ⟨hdecode, hascii⟩ := Option.filter_eq_some_iff.mp hdecoded
    obtain ⟨hpart, he⟩ := Option.ite_none_right_eq_some.mp h
    cases he
    refine ⟨hpart, fun hmem => ?_, fun hall => ?_⟩
    · rcases Punycode.mem_of_decode? hdecode hmem with hmem | hle
      · exact hdot (List.mem_of_mem_drop hmem)
      · exact absurd hle (by decide)
    · rw [hall] at hascii
      cases hascii
  · next hmark =>
    obtain ⟨hpart, he⟩ := Option.ite_none_right_eq_some.mp h
    cases he
    exact ⟨hpart, hdot, fun _ => hmark⟩

/-! ## names in their form -/

theorem settled_of_parts? {name : List Char} {parts : List (List Char)}
    (h : parts? name = some parts) : parts ≠ [] ∧ ∀ p ∈ parts, Settled p := by
  rw [parts?] at h
  obtain ⟨cs, -, h⟩ := Option.bind_eq_some_iff.mp h
  constructor
  · rintro rfl
    have hlength := length_of_mapM_eq_some h
    exact List.splitOn_ne_nil _ _ (List.length_eq_zero_iff.mp hlength.symm)
  · intro p hp
    obtain ⟨written, hwritten, hpart⟩ := exists_mem_of_mapM_eq_some h hp
    exact settled_of_part? (not_mem_of_mem_splitOn hwritten) hpart

theorem low_of_mem_intercalate {parts : List (List Char)} (h : ∀ p ∈ parts, Settled p) {c : Char}
    (hc : c ∈ List.intercalate ['.'] (parts.map encodePart)) : Low c := by
  rcases mem_intercalate hc with rfl | ⟨piece, hpiece, hc⟩
  · exact low_dot
  · obtain ⟨p, hp, rfl⟩ := List.mem_map.mp hpiece
    exact ((h p hp).mem_encodePart hc).1

theorem parts?_intercalate {parts : List (List Char)} (hne : parts ≠ [])
    (h : ∀ p ∈ parts, Settled p) :
    parts? (List.intercalate ['.'] (parts.map encodePart)) = some parts := by
  have hlow : ∀ c ∈ List.intercalate ['.'] (parts.map encodePart), Low c :=
    fun _ => low_of_mem_intercalate h
  have hascii : (List.intercalate ['.'] (parts.map encodePart)).all (·.toNat < 0x80) = true :=
    List.all_eq_true.mpr fun c hc => (hlow c hc).1
  have hsplit :
      List.splitOn '.' (List.intercalate ['.'] (parts.map encodePart)) = parts.map encodePart := by
    refine List.splitOn_intercalate '.' (fun piece hpiece hdot => ?_)
      (mt List.map_eq_nil_iff.mp hne)
    obtain ⟨p, hp, rfl⟩ := List.mem_map.mp hpiece
    exact ((h p hp).mem_encodePart hdot).2 rfl
  rw [parts?, mapM_eq_some_map fun c hc => canonical?_of_low (hlow c hc)]
  show (List.splitOn '.' (Canonical.form (List.map (fun c => [c]) _).flatten)).mapM part? = _
  rw [← List.flatMap_def, List.flatMap_singleton', Canonical.form, if_pos hascii, hsplit]
  exact mapM_map_eq_some fun p hp => part?_encodePart (h p hp)

theorem isPlain_map_toLower {name : List Char} (h : isPlain name = true) :
    isPlain (name.map Char.toLower) = true := by
  rw [isPlain, Bool.and_eq_true, List.all_eq_true, List.all_eq_true] at h ⊢
  obtain ⟨hascii, hparts⟩ := h
  have hsplit := splitOn_map (f := Char.toLower) fun c hc => (ascii_facts (hascii c hc)).2
  rw [hsplit]
  refine ⟨fun c hc => ?_, fun part hpart => ?_⟩
  · obtain ⟨d, hd, rfl⟩ := List.mem_map.mp hc
    exact (ascii_facts (hascii d hd)).1.1
  · obtain ⟨p, hp, rfl⟩ := List.mem_map.mp hpart
    have hlower : (p.take 4).map Char.toLower = ((p.take 4).map Char.toLower).map Char.toLower := by
      refine (map_toLower_of_low fun c hc => ?_).symm
      obtain ⟨d, hd, rfl⟩ := List.mem_map.mp hc
      exact (ascii_facts (hascii d (mem_of_mem_splitOn hp (List.mem_of_mem_take hd)))).1
    rw [← List.map_take, ← hlower]
    exact hparts p hp

theorem ascii?_ascii? {name form : List Char} (h : ascii? name = some form) :
    ascii? form = some form := by
  obtain ⟨hallowed, ⟨hplain, rfl⟩ | ⟨-, parts, hparts, hturns, rfl⟩⟩ := ascii?_cases h
  · have hlow : ∀ c ∈ name.map Char.toLower, Low c := by
      intro c hc
      obtain ⟨d, hd, rfl⟩ := List.mem_map.mp hc
      rw [isPlain, Bool.and_eq_true] at hplain
      exact (ascii_facts (List.all_eq_true.mp hplain.1 d hd)).1
    have hkept := map_toLower_of_low hlow
    have hform := ascii?_of_plain (isPlain_map_toLower hplain) (by rw [hkept]; exact hallowed)
    rwa [hkept] at hform
  · obtain ⟨hne, hsettled⟩ := settled_of_parts? hparts
    have hkept := map_toLower_of_low fun c => low_of_mem_intercalate hsettled
    cases hplain : isPlain (List.intercalate ['.'] (parts.map encodePart)) with
    | true =>
      have hform := ascii?_of_plain hplain (by rw [hkept]; exact hallowed)
      rwa [hkept] at hform
    | false => exact ascii?_of_parts hplain (parts?_intercalate hne hsettled) hturns hallowed

/-! ## digits and dots -/

def Numeric (c : Char) : Prop := Digits.isDigit c = true ∨ c = '.'

private theorem numeric_all : ∀ n < 58, n = 46 ∨ 48 ≤ n → isAscii (Char.ofNat n) = true ∧
    (Char.ofNat n).toLower = Char.ofNat n ∧ isForbidden (Char.ofNat n) = false ∧
      Char.ofNat n ≠ 'x' := by decide

theorem Numeric.facts {c : Char} (h : Numeric c) :
    Low c ∧ isForbidden c = false ∧ c ≠ 'x' := by
  have hc : c.toNat < 58 ∧ (c.toNat = 46 ∨ 48 ≤ c.toNat) := by
    rcases h with h | rfl
    · have := of_decide_eq_true h
      omega
    · exact ⟨by decide, .inl rfl⟩
  have hfacts := numeric_all c.toNat hc.1 hc.2
  rw [Char.ofNat_toNat] at hfacts
  exact ⟨⟨hfacts.1, hfacts.2.1⟩, hfacts.2.2⟩

theorem ascii?_of_numeric {name : List Char} (h : ∀ c ∈ name, Numeric c) :
    ascii? name = some name := by
  have hlow := map_toLower_of_low fun c hc => (h c hc).facts.1
  have hplain : isPlain name = true := by
    rw [isPlain, Bool.and_eq_true, List.all_eq_true, List.all_eq_true]
    refine ⟨fun c hc => (h c hc).facts.1.1, fun part hpart => decide_eq_true fun hmark => ?_⟩
    have hx : 'x' ∈ (part.take 4).map Char.toLower := hmark ▸ List.mem_cons_self
    obtain ⟨c, hc, hcx⟩ := List.mem_map.mp hx
    have hfacts := (h c (mem_of_mem_splitOn hpart (List.mem_of_mem_take hc))).facts
    exact hfacts.2.2 (hfacts.1.2.symm.trans hcx)
  have hallowed : name.any isForbidden = false :=
    List.any_eq_false.mpr fun c hc => Bool.not_eq_true _ ▸ (h c hc).facts.2.1
  have hform := ascii?_of_plain hplain (by rw [hlow]; exact hallowed)
  rwa [hlow] at hform

end QueryDesk.Domain
