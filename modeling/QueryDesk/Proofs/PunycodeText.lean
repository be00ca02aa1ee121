import Mathlib.Data.List.InsertIdx
import QueryDesk.Proofs.TextParts
import QueryDesk.Text.Punycode

/-!
# Punycode is read back

Writer and reader put the same characters in at the same places.

* `readNumber_writeNumber`   a number is read back, whatever stands behind it;
* `Reader`, `Reader.read_number`   what has been read so far, and one character more;
* `Follows`                  a reader has put in what a draft has, and the place that the draft has
  come to is as far from that of the reader as the draft says;
* `Follows.pass`             the draft passes one character: what it writes takes the reader along;
* `Follows.putAll`           in the end the reader has the whole text.

**`decode?_encode`**: a text is read back from its ASCII form.
-/

namespace QueryDesk.Punycode

/-! ## numbers -/

/-- a character that stands for a digit -/
def IsDigit (c : Char) : Prop := ∃ n < 36, c = digit n

theorem writeNumber_ne_nil (bias place n : Nat) : writeNumber bias place n ≠ [] := by
  rw [writeNumber]
  split <;> exact List.cons_ne_nil _ _

theorem isDigit_of_mem_writeNumber {bias place n : Nat} {c : Char}
    (h : c ∈ writeNumber bias place n) : IsDigit c := by
  have hpos := threshold_pos place bias
  have hle := threshold_le place bias
  induction place, n using writeNumber.induct bias with
  | case1 place n t hn =>
    rw [writeNumber, if_pos hn, List.mem_singleton] at h
    have hlt : n < threshold place bias := hn
    exact ⟨n, by omega, h⟩
  | case2 place n t hn ih =>
    rw [writeNumber, if_neg hn, List.mem_cons] at h
    rcases h with h | h
    · have hmod : (n - threshold place bias) % (36 - threshold place bias) <
          36 - threshold place bias := Nat.mod_lt _ (by omega)
      exact ⟨_, by omega, h⟩
    · exact ih h (threshold_pos _ bias) (threshold_le _ bias)

/-- a digit, and the digits behind it with weights that are `b` times as large -/
theorem value_of_digits {t n : Nat} (h : t ≤ n) (b weight : Nat) :
    (t + (n - t) % b) * weight + (n - t) / b * (weight * b) = n * weight := by
  have hparts : (n - t) % b + b * ((n - t) / b) = n - t := Nat.mod_add_div (n - t) b
  calc (t + (n - t) % b) * weight + (n - t) / b * (weight * b)
      = (t + ((n - t) % b + b * ((n - t) / b))) * weight := by
        rw [Nat.mul_comm weight b, ← Nat.mul_assoc, ← Nat.add_mul, Nat.mul_comm _ b, Nat.add_assoc]
    _ = n * weight := by rw [hparts, Nat.add_sub_cancel' h]

theorem readNumber_writeNumber (bias place n weight : Nat) (rest : List Char) :
    readNumber bias place weight (writeNumber bias place n ++ rest) = some (n * weight, rest) := by
  have hpos := threshold_pos place bias
  have hle := threshold_le place bias
  induction place, n using writeNumber.induct bias generalizing weight with
  | case1 place n t hn =>
    have hlt : n < threshold place bias := hn
    rw [writeNumber, if_pos hn, List.singleton_append, readNumber, digitVal?_digit (by omega)]
    exact if_pos hlt
  | case2 place n t hn ih =>
    have hge : threshold place bias ≤ n := Nat.not_lt.mp hn
    have hmod : (n - threshold place bias) % (36 - threshold place bias) <
        36 - threshold place bias := Nat.mod_lt _ (by omega)
    have hrest := ih (weight * (36 - threshold place bias)) (threshold_pos _ bias)
      (threshold_le _ bias)
    rw [writeNumber, if_neg hn, List.cons_append, readNumber, digitVal?_digit (by omega)]
    show (if _ < threshold place bias then _ else readNumber bias (place + 36) _ _ >>= _) = _
    rw [if_neg (by omega), hrest]
    exact congrArg (fun m => some (m, rest)) (value_of_digits hge _ weight)

theorem insertAll_cons {bias delta : Nat} {c : Char} {code rest : List Char}
    (h : readNumber bias 36 1 (c :: code) = some (delta, rest)) (n i : Nat) (isFirst : Bool)
    (cs : List Char) : insertAll bias n i isFirst cs (c :: code) =
      let n := n + (i + delta) / (cs.length + 1)
      let i := (i + delta) % (cs.length + 1)
      if n < 0xD800 ∨ (0xDFFF < n ∧ n < 0x110000) then
        insertAll (Punycode.bias delta (cs.length + 1) isFirst) n (i + 1) false
          (cs.insertIdx i (Char.ofNat n)) rest
      else none := by
  rw [insertAll]
  split
  · next hnone =>
    rw [h] at hnone
    cases hnone
  · next hsome =>
    rw [h] at hsome
    cases hsome
    rfl

/-! ## the reader -/

/-- a text so far, the last character that was put in, and the place behind it -/
structure Reader where
  bias : Nat
  n : Nat
  i : Nat
  isFirst : Bool
  text : List Char

namespace Reader

def read (r : Reader) (code : List Char) : Option (List Char) :=
  insertAll r.bias r.n r.i r.isFirst r.text code

/-- one character more, at the place `i` of those `n` -/
def put (r : Reader) (delta n i : Nat) : Reader :=
  ⟨Punycode.bias delta (r.text.length + 1) r.isFirst, n, i + 1, false,
    r.text.insertIdx i (Char.ofNat n)⟩

/-- as far as `delta` from the last place -/
theorem read_number {r : Reader} {delta n i : Nat} (hi : i ≤ r.text.length) (hle : r.n ≤ n)
    (hplace : r.n * (r.text.length + 1) + r.i + delta = n * (r.text.length + 1) + i)
    (hvalid : n < 0xD800 ∨ (0xDFFF < n ∧ n < 0x110000)) (code : List Char) :
    r.read (writeNumber r.bias 36 delta ++ code) = (r.put delta n i).read code := by
  obtain ⟨q, rfl⟩ := Nat.exists_eq_add_of_le hle
  have hsum : r.i + delta = i + q * (r.text.length + 1) := by
    rw [Nat.add_mul] at hplace
    omega
  have hdiv : (r.i + delta) / (r.text.length + 1) = q := by
    rw [hsum, Nat.add_mul_div_right _ _ (Nat.succ_pos _), Nat.div_eq_of_lt (by omega), Nat.zero_add]
  have hmod : (r.i + delta) % (r.text.length + 1) = i := by
    rw [hsum, Nat.add_mul_mod_self_right, Nat.mod_eq_of_lt (by omega)]
  obtain ⟨c, cs, hcons⟩ := List.exists_cons_of_ne_nil (writeNumber_ne_nil r.bias 36 delta)
  have hnumber := readNumber_writeNumber r.bias 36 delta 1 code
  rw [hcons, List.cons_append, Nat.mul_one] at hnumber
  rw [read, hcons, List.cons_append, insertAll_cons hnumber]
  dsimp only
  rw [hdiv, hmod, if_pos hvalid]
  rfl

end Reader

/-! ## a draft and its reader -/

/-- what a draft writes takes its reader along -/
def Takes (d d' : Draft) (r r' : Reader) : Prop :=
  ∃ code, d'.out = d.out ++ code ∧ (∀ c ∈ code, IsDigit c) ∧
    ∀ rest, r.read (code ++ rest) = r'.read rest

theorem Takes.of_out {d d' : Draft} (h : d'.out = d.out) (r : Reader) : Takes d d' r r :=
  ⟨[], by rw [h, List.append_nil], nofun, fun _ => rfl⟩

theorem Takes.trans {d d' d'' : Draft} {r r' r'' : Reader} (h : Takes d d' r r')
    (h' : Takes d' d'' r' r'') : Takes d d'' r r'' := by
  obtain ⟨code, hout, hdigits, hread⟩ := h
  obtain ⟨code', hout', hdigits', hread'⟩ := h'
  refine ⟨code ++ code', by rw [hout', hout, List.append_assoc],
    List.forall_mem_append.mpr ⟨hdigits, hdigits'⟩, fun rest => ?_⟩
  rw [List.append_assoc, hread, hread']

/-- what stands in its place in front of `n`, of the characters that were passed -/
def passed (n : Nat) (before : List Char) : List Char := before.filter (·.toNat ≤ n)

/-- what stands in its place of the characters that come, before `n` is put in -/
def coming (n : Nat) (after : List Char) : List Char := after.filter (·.toNat < n)

section
variable {n : Nat} {c : Char}

theorem passed_of_le (h : c.toNat ≤ n) (before : List Char) :
    passed n (before ++ [c]) = passed n before ++ [c] := by
  rw [passed, List.filter_append, List.filter_cons_of_pos (by simpa using h), List.filter_nil,
    passed]

theorem passed_of_lt (h : n < c.toNat) (before : List Char) :
    passed n (before ++ [c]) = passed n before := by
  rw [passed, List.filter_append, List.filter_cons_of_neg (by simpa using h), List.filter_nil,
    List.append_nil, passed]

theorem coming_of_lt (h : c.toNat < n) (after : List Char) :
    coming n (c :: after) = c :: coming n after :=
  List.filter_cons_of_pos (by simpa using h)

theorem coming_of_le (h : n ≤ c.toNat) (after : List Char) :
    coming n (c :: after) = coming n after :=
  List.filter_cons_of_neg (by simpa using h)

theorem insertIdx_length_append (a b : List Char) (c : Char) :
    (a ++ b).insertIdx a.length c = a ++ c :: b := by
  induction a with
  | nil => rfl
  | cons d a ih =>
    rw [List.cons_append, List.length_cons, List.insertIdx_succ_cons, ih, List.cons_append]

end

/-- the reader has put in what the draft has, and the place that the draft has come to is as far
from that of the reader as the draft says -/
structure Follows (n : Nat) (before after : List Char) (d : Draft) (r : Reader) : Prop where
  text : r.text = passed n before ++ coming n after
  size : d.size = r.text.length
  bias : r.bias = d.bias
  isFirst : r.isFirst = d.isFirst
  le : r.n ≤ n
  place : r.n * (d.size + 1) + r.i + d.delta = n * (d.size + 1) + (passed n before).length

namespace Follows
variable {n : Nat} {before after : List Char} {d : Draft} {r : Reader} {c : Char}

/-! ### one character -/

/-- a character that is in its place already -/
theorem pass_of_lt (h : Follows n before (c :: after) d r) (hc : c.toNat < n) :
    Follows n (before ++ [c]) after { d with delta := d.delta + 1 } r := by
  have hpassed := passed_of_le (Nat.le_of_lt hc) before
  refine ⟨?_, h.size, h.bias, h.isFirst, h.le, ?_⟩
  · rw [h.text, coming_of_lt hc, hpassed, List.append_assoc, List.singleton_append]
  · rw [hpassed, List.length_append]
    exact congrArg (· + 1) h.place

/-- a character whose turn comes later -/
theorem pass_of_gt (h : Follows n before (c :: after) d r) (hc : n < c.toNat) :
    Follows n (before ++ [c]) after d r := by
  have hpassed := passed_of_lt hc before
  refine ⟨?_, h.size, h.bias, h.isFirst, h.le, ?_⟩
  · rw [h.text, coming_of_le (Nat.le_of_lt hc), hpassed]
  · rw [h.place, hpassed]

/-- the next character: the number that is written takes the reader to its place -/
theorem pass_of_eq (h : Follows c.toNat before (c :: after) d r) :
    (∀ code, r.read (writeNumber d.bias 36 d.delta ++ code) =
      (r.put d.delta c.toNat (passed c.toNat before).length).read code) ∧
    Follows c.toNat (before ++ [c]) after
      ⟨d.out ++ writeNumber d.bias 36 d.delta, 0, Punycode.bias d.delta (d.size + 1) d.isFirst,
        d.size + 1, false⟩ (r.put d.delta c.toNat (passed c.toNat before).length) := by
  have htext := h.text
  rw [coming_of_le (Nat.le_refl c.toNat)] at htext
  have hpassed := passed_of_le (Nat.le_refl c.toNat) before
  have hlength : (passed c.toNat before).length ≤ r.text.length := by
    rw [htext, List.length_append]
    exact Nat.le_add_right _ _
  constructor
  · have hplace := h.place
    rw [h.size] at hplace
    rw [← h.bias]
    exact Reader.read_number hlength h.le hplace c.valid
  · refine ⟨?_, ?_, ?_, rfl, Nat.le_refl _, ?_⟩
    · show r.text.insertIdx _ (Char.ofNat c.toNat) = _
      rw [htext, insertIdx_length_append, Char.ofNat_toNat, hpassed, List.append_assoc,
        List.singleton_append]
    · show d.size + 1 = (r.text.insertIdx _ (Char.ofNat c.toNat)).length
      rw [List.length_insertIdx, if_pos hlength, h.size]
    · show Punycode.bias d.delta (r.text.length + 1) r.isFirst = _
      rw [← h.size, h.isFirst]
    · rw [hpassed, List.length_append]
      rfl

theorem pass (h : Follows n before (c :: after) d r) :
    ∃ r', Takes d (d.pass n c) r r' ∧ Follows n (before ++ [c]) after (d.pass n c) r' := by
  rw [Draft.pass]
  split
  · next hlt => exact ⟨r, Takes.of_out rfl r, h.pass_of_lt hlt⟩
  · next hnot =>
    split
    · next heq =>
      subst heq
      obtain ⟨hread, hfollows⟩ := h.pass_of_eq
      exact ⟨_, ⟨_, rfl, fun x hx => isDigit_of_mem_writeNumber hx, hread⟩, hfollows⟩
    · next hne => exact ⟨r, Takes.of_out rfl r, h.pass_of_gt (by omega)⟩

theorem foldl_pass (h : Follows n before after d r) :
    ∃ r', Takes d (after.foldl (Draft.pass n) d) r r' ∧
      Follows n (before ++ after) [] (after.foldl (Draft.pass n) d) r' := by
  induction after generalizing before d r with
  | nil =>
    rw [List.append_nil]
    exact ⟨r, Takes.of_out rfl r, h⟩
  | cons c after ih =>
    obtain ⟨r₁, htakes₁, h₁⟩ := h.pass
    obtain ⟨r₂, htakes₂, h₂⟩ := ih h₁
    rw [List.append_assoc, List.singleton_append] at h₂
    exact ⟨r₂, htakes₁.trans htakes₂, h₂⟩

/-! ### from one character to the next -/

section
variable {low : Nat} {cs : List Char}

/-- no character from `low` on comes before `n` -/
theorem raise (h : Follows low [] cs d r) (hle : low ≤ n)
    (hnone : ∀ c ∈ cs, low ≤ c.toNat → n ≤ c.toNat) :
    Follows n [] cs { d with delta := d.delta + (n - low) * (d.size + 1) } r := by
  obtain ⟨k, rfl⟩ := Nat.exists_eq_add_of_le hle
  have hcoming : coming low cs = coming (low + k) cs := by
    refine List.filter_congr fun c hc => decide_eq_decide.mpr ?_
    have := hnone c hc
    omega
  have hplace : r.n * (d.size + 1) + r.i + d.delta = low * (d.size + 1) + 0 := h.place
  refine ⟨h.text.trans hcoming, h.size, h.bias, h.isFirst, Nat.le_trans h.le hle, ?_⟩
  show r.n * (d.size + 1) + r.i + (d.delta + (low + k - low) * (d.size + 1)) =
    (low + k) * (d.size + 1) + 0
  rw [Nat.add_sub_cancel_left, Nat.add_mul]
  omega

/-- behind the last place of `n` is the first one of what comes after `n` -/
theorem next (h : Follows n cs [] d r) :
    Follows (n + 1) [] cs { d with delta := d.delta + 1 } r := by
  have htext : r.text = passed n cs := h.text.trans (List.append_nil _)
  have hcoming : passed n cs = coming (n + 1) cs :=
    List.filter_congr fun c _ => decide_eq_decide.mpr Nat.lt_succ_iff.symm
  have hplace := h.place
  rw [← htext, ← h.size] at hplace
  refine ⟨htext.trans hcoming, h.size, h.bias, h.isFirst, Nat.le_succ_of_le h.le, ?_⟩
  show r.n * (d.size + 1) + r.i + (d.delta + 1) = (n + 1) * (d.size + 1) + 0
  rw [Nat.succ_mul]
  omega

theorem putAll {ns : List Nat} (h : Follows low [] cs d r) (hsorted : ns.Pairwise (· < ·))
    (hmem : ∀ m, m ∈ ns ↔ low ≤ m ∧ ∃ c ∈ cs, c.toNat = m) :
    ∃ r', Takes d (Draft.putAll cs low ns d) r r' ∧ r'.text = cs := by
  induction ns generalizing low d r with
  | nil =>
    refine ⟨r, Takes.of_out rfl r, h.text.trans ?_⟩
    refine List.filter_eq_self.mpr fun c hc => decide_eq_true (Nat.lt_of_not_le fun hle => ?_)
    exact List.not_mem_nil ((hmem c.toNat).mpr ⟨hle, c, hc, rfl⟩)
  | cons n ns ih =>
    obtain ⟨hfirst, hrest⟩ := List.pairwise_cons.mp hsorted
    have hle : low ≤ n := ((hmem n).mp List.mem_cons_self).1
    have hleast : ∀ c ∈ cs, low ≤ c.toNat → n ≤ c.toNat := by
      intro c hc hlow
      rcases List.mem_cons.mp ((hmem c.toNat).mpr ⟨hlow, c, hc, rfl⟩) with he | hmem
      · exact Nat.le_of_eq he.symm
      · exact Nat.le_of_lt (hfirst _ hmem)
    obtain ⟨r₁, htakes₁, h₁⟩ := (h.raise hle hleast).foldl_pass
    have hothers : ∀ m, m ∈ ns ↔ n + 1 ≤ m ∧ ∃ c ∈ cs, c.toNat = m := by
      intro m
      refine ⟨fun hm => ?_, fun ⟨hlt, hc⟩ => ?_⟩
      · exact ⟨hfirst m hm, ((hmem m).mp (List.mem_cons_of_mem _ hm)).2⟩
      · have := (hmem m).mpr ⟨by omega, hc⟩
        exact (List.mem_cons.mp this).resolve_left (by omega)
    obtain ⟨r₂, htakes₂, htext⟩ := ih h₁.next hrest hothers
    exact ⟨r₂, htakes₁.trans htakes₂, htext⟩

end

end Follows

/-! ## the whole text -/

theorem pairwise_eraseDups {ns : List Nat} (h : ns.Pairwise (· ≤ ·)) :
    ns.eraseDups.Pairwise (· < ·) := by
  induction hn : ns.length using Nat.strongRecOn generalizing ns with
  | ind k ih =>
    cases ns with
    | nil => exact List.Pairwise.nil
    | cons n ns =>
      obtain ⟨hfirst, hrest⟩ := List.pairwise_cons.mp h
      rw [List.eraseDups_cons, List.pairwise_cons]
      have hshort := List.length_filter_le (fun m => !m == n) ns
      rw [List.length_cons] at hn
      refine ⟨fun m hm => ?_, ih _ (by omega) (hrest.filter _) rfl⟩
      obtain ⟨hmem, hne⟩ := List.mem_filter.mp (List.mem_eraseDups.mp hm)
      have hle := hfirst m hmem
      simp only [Bool.not_eq_true', beq_eq_false_iff_ne] at hne
      omega

theorem splitDash_append {basic code : List Char} (hcode : '-' ∉ code) :
    splitDash ((if basic = [] then [] else basic ++ ['-']) ++ code) = (basic, code) := by
  have hspan : ∀ rest : List Char, (∀ c ∈ rest.head?, decide (c ≠ '-') = false) →
      (code.reverse ++ rest).span (· ≠ '-') = (code.reverse, rest) := by
    refine fun rest hrest => span_append (fun c hc => decide_eq_true ?_) hrest
    rintro rfl
    exact hcode (List.mem_reverse.mp hc)
  split
  · next hnil =>
    have := hspan [] nofun
    rw [List.append_nil] at this
    rw [List.nil_append, splitDash, this, hnil]
  · next hne =>
    have hdash := hspan ('-' :: basic.reverse) fun c hc => by cases hc; rfl
    obtain ⟨c, cs, hcons⟩ := List.exists_cons_of_ne_nil (mt List.reverse_eq_nil_iff.mp hne)
    rw [splitDash, List.reverse_append, List.reverse_append, List.reverse_singleton,
      List.singleton_append, hdash, hcons]
    dsimp only
    rw [← hcons, List.reverse_reverse, List.reverse_reverse]

private theorem digit_ne_dash : ∀ n < 36, digit n ≠ '-' := by decide

/-- the characters of a text outside ASCII, in the order of their code points -/
theorem mem_others {cs : List Char} (m : Nat) :
    m ∈ ((cs.filter (!isBasic ·)).map Char.toNat).mergeSort.eraseDups ↔
      0x80 ≤ m ∧ ∃ c ∈ cs, c.toNat = m := by
  rw [List.mem_eraseDups, List.mem_mergeSort, List.mem_map]
  constructor
  · rintro ⟨c, hc, rfl⟩
    obtain ⟨hmem, hbasic⟩ := List.mem_filter.mp hc
    refine ⟨?_, c, hmem, rfl⟩
    simpa [isBasic] using hbasic
  · rintro ⟨hle, c, hc, rfl⟩
    refine ⟨c, List.mem_filter.mpr ⟨hc, ?_⟩, rfl⟩
    simpa [isBasic] using hle

/-- the ASCII characters of a text, and the digits behind them -/
theorem exists_encode_eq (cs : List Char) : ∃ code,
    encode cs = (if cs.filter isBasic = [] then [] else cs.filter isBasic ++ ['-']) ++ code ∧
      (∀ c ∈ code, IsDigit c) ∧ insertAll 72 0x80 0 true (cs.filter isBasic) code = some cs := by
  have hstart : Follows 0x80 [] cs
      ⟨if cs.filter isBasic = [] then [] else cs.filter isBasic ++ ['-'], 0, 72,
        (cs.filter isBasic).length, true⟩
      ⟨72, 0x80, 0, true, cs.filter isBasic⟩ := ⟨rfl, rfl, rfl, rfl, Nat.le_refl _, rfl⟩
  have hsorted : ((cs.filter (!isBasic ·)).map Char.toNat).mergeSort.Pairwise (· ≤ ·) :=
    (List.pairwise_mergeSort (by simpa using fun a b c => Nat.le_trans)
      (by simpa using Nat.le_total) _).imp of_decide_eq_true
  obtain ⟨r, ⟨code, hout, hdigits, hread⟩, htext⟩ :=
    hstart.putAll (pairwise_eraseDups hsorted) mem_others
  refine ⟨code, hout, hdigits, ?_⟩
  have hall := hread []
  rw [List.append_nil] at hall
  show Reader.read ⟨72, 0x80, 0, true, cs.filter isBasic⟩ code = some cs
  rw [hall, Reader.read, insertAll, htext]

theorem decode?_encode (cs : List Char) : decode? (encode cs) = some cs := by
  obtain ⟨code, hout, hdigits, hread⟩ := exists_encode_eq cs
  have hcode : '-' ∉ code := by
    intro hmem
    obtain ⟨n, hn, he⟩ := hdigits _ hmem
    exact digit_ne_dash n hn he.symm
  have hbasic : (cs.filter isBasic).all isBasic = true :=
    List.all_eq_true.mpr fun c hc => (List.mem_filter.mp hc).2
  rw [decode?, hout, splitDash_append hcode]
  dsimp only
  rw [if_pos hbasic, hread]

/-! ## what a text is made of -/

theorem toNat_ofNat {n : Nat} (h : n < 0xD800 ∨ (0xDFFF < n ∧ n < 0x110000)) :
    (Char.ofNat n).toNat = n := by
  rw [Char.ofNat, dif_pos h]
  rfl

theorem mem_of_insertAll {bias n i : Nat} {isFirst : Bool} {cs code out : List Char}
    (h : insertAll bias n i isFirst cs code = some out) {c : Char} (hc : c ∈ out) :
    c ∈ cs ∨ n ≤ c.toNat := by
  induction bias, n, i, isFirst, cs, code using insertAll.induct with
  | case1 bias n i isFirst cs =>
    rw [insertAll] at h
    cases h
    exact .inl hc
  | case2 bias n i isFirst cs d code hnumber =>
    rw [insertAll] at h
    split at h
    · cases h
    · next hsome =>
      rw [hnumber] at hsome
      cases hsome
  | case3 bias n i isFirst cs d code delta rest hnumber size m j hvalid ih =>
    rw [insertAll_cons hnumber] at h
    dsimp only at h
    rw [if_pos hvalid] at h
    have hm : n ≤ m := Nat.le_add_right _ _
    rcases ih h with hmem | hle
    · rcases List.eq_or_mem_of_mem_insertIdx hmem with rfl | hmem
      · rw [toNat_ofNat hvalid]
        exact .inr hm
      · exact .inl hmem
    · exact .inr (Nat.le_trans hm hle)
  | case4 bias n i isFirst cs d code delta rest hnumber size m hvalid =>
    rw [insertAll_cons hnumber] at h
    dsimp only at h
    rw [if_neg hvalid] at h
    cases h

theorem mem_of_splitDash {cs : List Char} {c : Char} (h : c ∈ (splitDash cs).1) : c ∈ cs := by
  rw [splitDash] at h
  split at h
  · cases h
  · cases h
  · next code d basic _ hspan =>
    rw [List.span_eq_takeWhile_dropWhile, Prod.mk.injEq] at hspan
    have hmem : c ∈ cs.reverse.dropWhile (· ≠ '-') := by
      rw [hspan.2]
      exact List.mem_cons_of_mem _ (List.mem_reverse.mp h)
    exact List.mem_reverse.mp ((List.dropWhile_suffix _).subset hmem)

/-- what is not ASCII was put in -/
theorem mem_of_decode? {cs out : List Char} (h : decode? cs = some out) {c : Char} (hc : c ∈ out) :
    c ∈ cs ∨ 0x80 ≤ c.toNat := by
  rw [decode?] at h
  dsimp only at h
  split at h
  · exact (mem_of_insertAll h hc).imp_left mem_of_splitDash
  · cases h

end QueryDesk.Punycode
