import QueryDesk.Http.Percent

/-!
# Encoded text

* `Encoded set cs`   nothing is left to encode;
* `mem_encode`       what stands in a text that was encoded;
* `encoded_encode`   encoding makes a text so, and `Encoded.encode_eq` then leaves it as it is;
* `text?_decode`     without a `%` nothing is to be decoded.
-/

namespace QueryDesk.Percent

/-! ## nothing left to encode -/

/-- nothing is left to encode -/
def Encoded (set : EncodeSet) (cs : List Char) : Prop := ∀ c ∈ cs, c.toNat < 0x80 ∧ set c = false

/-- the set has none of the characters that encoding writes -/
def Spares (set : EncodeSet) : Prop := set '%' = false ∧ ∀ n < 16, set (Hex.upper n) = false

instance (set : EncodeSet) : Decidable (Spares set) :=
  inferInstanceAs (Decidable (_ ∧ ∀ n < 16, _))

theorem spares_userSet : Spares userSet := by decide

theorem spares_pathSet : Spares pathSet := by decide

theorem spares_querySet : Spares querySet := by decide

theorem spares_fragmentSet : Spares fragmentSet := by decide

private theorem toNat_upper_all : ∀ n < 16, (Hex.upper n).toNat < 0x80 := by decide

/-- what encoding leaves, and what it writes -/
theorem mem_encode {set : EncodeSet} {cs : List Char} {c : Char} (h : c ∈ encode set cs) :
    (c ∈ cs ∧ c.toNat < 0x80 ∧ set c = false) ∨ c = '%' ∨ ∃ n < 16, c = Hex.upper n := by
  obtain ⟨d, hd, hc⟩ := List.mem_flatMap.mp h
  unfold encodeChar at hc
  split at hc
  · next hplain =>
    rw [List.mem_singleton] at hc
    subst hc
    simp only [Bool.and_eq_true, decide_eq_true_eq, Bool.not_eq_true'] at hplain
    exact .inl ⟨hd, hplain⟩
  · obtain ⟨b, -, hb⟩ := List.mem_flatMap.mp hc
    have hlt : b.toNat < 256 := b.toNat_lt
    simp only [encodeByte, List.mem_cons, List.not_mem_nil, or_false] at hb
    rcases hb with rfl | rfl | rfl
    · exact .inr (.inl rfl)
    · exact .inr (.inr ⟨b.toNat / 16, by omega, rfl⟩)
    · exact .inr (.inr ⟨b.toNat % 16, by omega, rfl⟩)

/-- encoding writes no character but percent signs and digits -/
theorem not_mem_encode {set : EncodeSet} {cs : List Char} {c : Char} (h : c ∉ cs)
    (hpercent : c ≠ '%') (hdigit : ∀ n < 16, Hex.upper n ≠ c) : c ∉ encode set cs := by
  intro hmem
  rcases mem_encode hmem with ⟨hc, -⟩ | he | ⟨n, hn, he⟩
  · exact h hc
  · exact hpercent he
  · exact hdigit n hn he.symm

theorem encoded_encode {set : EncodeSet} (hset : Spares set) (cs : List Char) :
    Encoded set (encode set cs) := by
  intro c hc
  rcases mem_encode hc with ⟨-, h⟩ | rfl | ⟨n, hn, rfl⟩
  · exact h
  · exact ⟨by decide, hset.1⟩
  · exact ⟨toNat_upper_all n hn, hset.2 n hn⟩

theorem Encoded.encode_eq {set : EncodeSet} {cs : List Char} (h : Encoded set cs) :
    encode set cs = cs :=
  encode_eq_self h

/-! ## nothing to decode -/

theorem decode_eq_flatMap {cs : List Char} (h : '%' ∉ cs) :
    decode cs = cs.flatMap String.utf8EncodeChar := by
  induction cs with
  | nil => rw [decode, List.flatMap_nil]
  | cons c cs ih =>
    have hc : '%' ≠ c := List.ne_of_not_mem_cons h
    rw [decode, ih (List.not_mem_of_not_mem_cons h), List.flatMap_cons]
    intro a b rest he
    exact absurd he.symm hc

theorem text?_flatMap (cs : List Char) : text? (cs.flatMap String.utf8EncodeChar) = some cs := by
  have hbytes : (⟨(cs.flatMap String.utf8EncodeChar).toArray⟩ : ByteArray) =
      (String.ofList cs).toUTF8 := by
    show _ = (cs.flatMap String.utf8EncodeChar).toByteArray
    rw [← List.data_toByteArray]
  have hread : String.fromUTF8? (String.ofList cs).toUTF8 = some (String.ofList cs) :=
    dif_pos (String.ofList cs).isValidUTF8
  rw [text?, hbytes, hread, Option.map_some, String.toList_ofList]

theorem text?_decode {cs : List Char} (h : '%' ∉ cs) : text? (decode cs) = some cs := by
  rw [decode_eq_flatMap h, text?_flatMap]

end QueryDesk.Percent
