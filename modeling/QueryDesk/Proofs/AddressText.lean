import QueryDesk.Http.Host
import QueryDesk.Proofs.DecimalText
import QueryDesk.Proofs.TextParts

/-!
# Addresses of hosts are read back

* `Ipv4.parse?_lt`, `Ipv6.proper_of_parse?`   what is read is four bytes, or eight pieces;
* `Ipv6.exists_written`                       the digits of a piece;
* `Ipv6.cut?_join`                            pieces hold no double colon;
* `Ipv6.longestRun_le`                        what the double colon leaves out is zero.

**`Ipv4.parse?_text`, `Ipv6.parse?_text`**: an address is read back from its text.
-/

namespace QueryDesk

/-! ## digits -/

namespace Digits

theorem isDigit_eq (c : Char) : isDigit c = c.isDigit := by
  rw [isDigit, Bool.decide_and]
  rfl

theorem val_lt {c : Char} (h : isDigit c = true) : val c < 10 := by
  have hc : 48 ≤ c.toNat ∧ c.toNat ≤ 57 := of_decide_eq_true h
  unfold val
  omega

end Digits

namespace Hex

theorem val?_of_isDigit {c : Char} (h : Digits.isDigit c = true) :
    val? c = some (Digits.val c) := by
  have hc : 48 ≤ c.toNat ∧ c.toNat ≤ 57 := of_decide_eq_true h
  have hlow : '0' ≤ c := Char.le_def.mpr (UInt32.le_iff_toNat_le.mpr hc.1)
  have hhigh : c ≤ '9' := Char.le_def.mpr (UInt32.le_iff_toNat_le.mpr hc.2)
  rw [val?, if_pos ⟨hlow, hhigh⟩]
  rfl

theorem val?_lt {c : Char} {n : Nat} (h : val? c = some n) : n < 16 := by
  unfold val? at h
  split at h
  · next hc =>
    have : c.toNat ≤ 57 := UInt32.le_iff_toNat_le.mp (Char.le_def.mp hc.2)
    cases h
    omega
  split at h
  · next hc =>
    have : c.toNat ≤ 102 := UInt32.le_iff_toNat_le.mp (Char.le_def.mp hc.2)
    cases h
    omega
  split at h
  · next hc =>
    have : c.toNat ≤ 70 := UInt32.le_iff_toNat_le.mp (Char.le_def.mp hc.2)
    cases h
    omega
  · cases h

end Hex

/-! ## IPv4 -/

namespace Ipv4

private theorem foldlM_digits {ds : List Char} (h : ∀ c ∈ ds, Digits.isDigit c = true) (n : Nat) :
    ds.foldlM (fun n c => do
      let v ← Hex.val? c
      if v < 10 then some (n * 10 + v) else none) n =
    some (ds.foldl (fun v c => 10 * v + Digits.val c) n) := by
  induction ds generalizing n with
  | nil => rfl
  | cons d ds ih =>
    obtain ⟨hd, hds⟩ := List.forall_mem_cons.mp h
    rw [List.foldlM_cons, List.foldl_cons, ← ih hds, Hex.val?_of_isDigit hd]
    show ((if Digits.val d < 10 then _ else none) >>= _) = _
    rw [if_pos (Digits.val_lt hd), Nat.mul_comm n 10]
    rfl

theorem number?_digits (n : Nat) : number? (Digits.digits n) = some n := by
  have hdigits := Digits.isDigit_of_mem_digits n
  rw [← congrArg some (Digits.value_digits n), Digits.value, ← foldlM_digits hdigits]
  unfold number?
  rcases Nat.eq_zero_or_pos n with rfl | hn
  · rw [Digits.digits, if_pos (by decide)]
    rfl
  · have hhead := Digits.head?_digits hn.ne'
    split
    · next he => exact absurd he (Digits.digits_ne_nil n)
    · next he => rw [he] at hhead; exact absurd rfl hhead
    · next he => rw [he] at hhead; exact absurd rfl hhead
    · next he => rw [he] at hhead; exact absurd rfl hhead
    · rfl

/-- the bytes of an address, the highest first -/
def bytes (a : Nat) : List Nat :=
  [a / 256 ^ 3 % 256, a / 256 ^ 2 % 256, a / 256 ^ 1 % 256, a / 256 ^ 0 % 256]

theorem text_eq (a : Nat) : text a = List.intercalate ['.'] ((bytes a).map Digits.digits) := by
  simp [text, bytes, List.intercalate]

theorem not_mem_digits {c : Char} (hc : Digits.isDigit c = false) (n : Nat) :
    c ∉ Digits.digits n := by
  intro h
  rw [Digits.isDigit_of_mem_digits n c h] at hc
  cases hc

theorem splitOn_text (a : Nat) : List.splitOn '.' (text a) = (bytes a).map Digits.digits := by
  rw [text_eq]
  refine List.splitOn_intercalate '.' (fun p hp => ?_) (List.cons_ne_nil _ _)
  obtain ⟨n, -, rfl⟩ := List.mem_map.mp hp
  exact not_mem_digits rfl n

theorem getLast?_bytes (a : Nat) :
    ((bytes a).map Digits.digits).getLast? = some (Digits.digits (a / 256 ^ 0 % 256)) := rfl

theorem parts_text (a : Nat) : parts (text a) = (bytes a).map Digits.digits := by
  rw [parts, splitOn_text, getLast?_bytes, if_neg]
  intro h
  exact Digits.digits_ne_nil _ (Option.some.inj h)

theorem parse?_text {a : Nat} (h : a < 2 ^ 32) : parse? (text a) = some a := by
  have hnumbers : ((bytes a).map Digits.digits).mapM number? = some (bytes a) :=
    mapM_map_eq_some fun n _ => number?_digits n
  have hlast : a / 256 ^ 0 % 256 < Nat.pow 256 1 := Nat.mod_lt _ (by decide)
  have hfirst : [a / 256 ^ 3 % 256, a / 256 ^ 2 % 256, a / 256 ^ 1 % 256].all (· < 256) = true := by
    simp only [List.all_cons, List.all_nil, Bool.and_true, Bool.and_eq_true, decide_eq_true_eq]
    omega
  rw [parse?, parts_text, hnumbers]
  show (if a / 256 ^ 0 % 256 < Nat.pow 256 1 ∧
    [a / 256 ^ 3 % 256, a / 256 ^ 2 % 256, a / 256 ^ 1 % 256].all (· < 256) = true
    then _ else none) = _
  rw [if_pos ⟨hlast, hfirst⟩]
  refine congrArg some ?_
  show a / 256 ^ 0 % 256 + a / 256 ^ 3 % 256 * 256 ^ 3 + a / 256 ^ 2 % 256 * 256 ^ 2 +
    a / 256 ^ 1 % 256 * 256 ^ 1 = a
  omega

theorem lastPart_text (a : Nat) : lastPart (text a) = Digits.digits (a / 256 ^ 0 % 256) := by
  obtain ⟨d, ds, hd⟩ := List.exists_cons_of_ne_nil (Digits.digits_ne_nil (a / 256 ^ 0 % 256))
  rw [lastPart, splitOn_text, bytes, List.map_cons, List.map_cons, List.map_cons,
    List.map_singleton, hd]
  rfl

theorem isAddress_text (a : Nat) : isAddress (text a) = true := by
  have hdigits : (Digits.digits (a / 256 ^ 0 % 256)).all Char.isDigit = true :=
    List.all_eq_true.mpr fun c hc =>
      (Digits.isDigit_eq c).symm.trans (Digits.isDigit_of_mem_digits _ c hc)
  rw [isAddress, lastPart_text, hdigits, decide_eq_true (Digits.digits_ne_nil _)]
  rfl

/-- what bytes in front add, from their place `k` on -/
theorem foldl_bytes_le {bs : List Nat} (hbs : ∀ b ∈ bs, b < 256) {k : Nat}
    (hk : k + bs.length ≤ 4) (n : Nat) :
    (bs.zipIdx k).foldl (fun n (b, i) => n + b * Nat.pow 256 (3 - i)) n +
      256 ^ (4 - (k + bs.length)) ≤ n + 256 ^ (4 - k) := by
  induction bs generalizing k n with
  | nil => exact Nat.le_refl _
  | cons b bs ih =>
    obtain ⟨hb, hbs⟩ := List.forall_mem_cons.mp hbs
    rw [List.length_cons, ← Nat.add_assoc, Nat.add_right_comm] at hk ⊢
    have hrest := ih hbs (k := k + 1) (by omega) (n + b * 256 ^ (3 - k))
    have hpow : 256 ^ (4 - k) = 256 * 256 ^ (3 - k) := by
      rw [← Nat.pow_succ']
      congr 1
      omega
    have hplace : b * 256 ^ (3 - k) + 256 ^ (3 - k) ≤ 256 * 256 ^ (3 - k) := by
      rw [← Nat.succ_mul]
      exact Nat.mul_le_mul_right _ hb
    rw [List.zipIdx_cons, List.foldl_cons]
    rw [show 4 - (k + 1) = 3 - k by omega] at hrest
    refine Nat.le_trans hrest ?_
    omega

theorem parse?_lt {name : List Char} {a : Nat} (h : parse? name = some a) : a < 2 ^ 32 := by
  rw [parse?] at h
  split at h
  · cases h
  next hlen =>
  obtain ⟨numbers, hnumbers, h⟩ := Option.bind_eq_some_iff.mp h
  obtain ⟨last, hlast, h⟩ := Option.bind_eq_some_iff.mp h
  have hlength := length_of_mapM_eq_some hnumbers
  have hfirst : numbers.dropLast.length ≤ 4 := by
    rw [List.length_dropLast]
    omega
  dsimp only at h
  split at h
  · next hbound =>
    have hbytes : ∀ b ∈ numbers.dropLast, b < 256 := by
      intro b hb
      exact of_decide_eq_true (List.all_eq_true.mp hbound.2 b hb)
    have hle := foldl_bytes_le hbytes (k := 0) (by omega) last
    have hlt : last < 256 ^ (4 - (0 + numbers.dropLast.length)) := by
      rw [Nat.zero_add]
      exact hbound.1
    rw [Option.some.inj h] at hle
    omega
  · cases h

end Ipv4

/-! ## IPv6 -/

namespace Ipv6

/-- a digit of a piece after those before it -/
def shift (n k : Nat) : Nat := 16 * n + k

private theorem foldlM_lower {ks : List Nat} (h : ∀ k ∈ ks, k < 16) (n : Nat) :
    (ks.map Hex.lower).foldlM (fun n c => (Hex.val? c).map (16 * n + ·)) n =
      some (ks.foldl shift n) := by
  induction ks generalizing n with
  | nil => rfl
  | cons k ks ih =>
    obtain ⟨hk, hks⟩ := List.forall_mem_cons.mp h
    rw [List.map_cons, List.foldlM_cons, List.foldl_cons, ← ih hks, Hex.val?_lower hk]
    rfl

/-- the digits of a piece, by their values -/
structure Written (n : Nat) (ks : List Nat) : Prop where
  digits : hexDigits n = ks.map Hex.lower
  ne_nil : ks ≠ []
  length : ks.length ≤ 4
  lt : ∀ k ∈ ks, k < 16
  value : ks.foldl shift 0 = n

theorem exists_written {n : Nat} (h : n < 65536) : ∃ ks, Written n ks := by
  by_cases h1 : n < 16
  · exact ⟨[n], by rw [hexDigits, if_pos h1]; rfl, by simp, by simp, by simpa using h1,
      by simp [shift]⟩
  by_cases h2 : n < 256
  · refine ⟨[n / 16, n % 16], by rw [hexDigits, if_neg h1, if_pos h2]; rfl, by simp, by simp,
      ?_, ?_⟩
    · simp
      omega
    · simp [shift]
      omega
  by_cases h3 : n < 4096
  · refine ⟨[n / 256, n / 16 % 16, n % 16],
      by rw [hexDigits, if_neg h1, if_neg h2, if_pos h3]; rfl, by simp, by simp, ?_, ?_⟩
    · simp
      omega
    · simp [shift]
      omega
  · refine ⟨[n / 4096 % 16, n / 256 % 16, n / 16 % 16, n % 16],
      by rw [hexDigits, if_neg h1, if_neg h2, if_neg h3]; rfl, by simp, by simp, ?_, ?_⟩
    · simp
      omega
    · simp [shift]
      omega

theorem Written.piece? {n : Nat} {ks : List Nat} (h : Written n ks) :
    piece? (hexDigits n) = some n := by
  have hne : ¬(ks.map Hex.lower = [] ∨ 4 < (ks.map Hex.lower).length) := by
    rw [List.map_eq_nil_iff, List.length_map]
    rintro (hnil | hlen)
    · exact h.ne_nil hnil
    · exact Nat.not_lt.mpr h.length hlen
  rw [Ipv6.piece?, h.digits, if_neg hne, foldlM_lower h.lt, h.value]

/-! ### what is read -/

/-- eight pieces of sixteen bits -/
structure Proper (ps : List Nat) : Prop where
  length : ps.length = 8
  lt : ∀ p ∈ ps, p < 65536

theorem foldlM_lt {cs : List Char} {n m : Nat}
    (h : cs.foldlM (fun n c => (Hex.val? c).map (16 * n + ·)) n = some m) :
    m < 16 ^ cs.length * (n + 1) := by
  induction cs generalizing n with
  | nil =>
    cases h
    rw [List.length_nil, Nat.pow_zero]
    omega
  | cons c cs ih =>
    rw [List.foldlM_cons] at h
    obtain ⟨k, hk, h⟩ := Option.bind_eq_some_iff.mp h
    obtain ⟨v, hv, rfl⟩ := Option.map_eq_some_iff.mp hk
    have hlt : 16 * n + v + 1 ≤ 16 * (n + 1) := by
      have := Hex.val?_lt hv
      omega
    calc m < 16 ^ cs.length * (16 * n + v + 1) := ih h
      _ ≤ 16 ^ cs.length * (16 * (n + 1)) := Nat.mul_le_mul_left _ hlt
      _ = 16 ^ (c :: cs).length * (n + 1) := by
        rw [List.length_cons, Nat.pow_succ, Nat.mul_assoc]

theorem piece?_lt {cs : List Char} {n : Nat} (h : piece? cs = some n) : n < 65536 := by
  rw [piece?] at h
  split at h
  · cases h
  · next hlen =>
    have hpow : 16 ^ cs.length ≤ 16 ^ 4 := Nat.pow_le_pow_right (by decide) (by omega)
    have hlt := foldlM_lt h
    omega

theorem byte?_lt {cs : List Char} {n : Nat} (h : byte? cs = some n) : n < 256 := by
  rw [byte?] at h
  split at h
  · next hn =>
    cases h
    exact hn.2
  · cases h

theorem dotted?_lt {cs : List Char} {ps : List Nat} (h : dotted? cs = some ps) :
    ∀ p ∈ ps, p < 65536 := by
  obtain ⟨bs, hbs, h⟩ := Option.bind_eq_some_iff.mp h
  have hlt := forall_of_mapM_eq_some (fun _ _ => byte?_lt) hbs
  split at h
  · cases h
    simp only [List.forall_mem_cons] at hlt ⊢
    obtain ⟨ha, hb, hc, hd, -⟩ := hlt
    exact ⟨by omega, by omega, nofun⟩
  · cases h

theorem pieces?_lt {ends : Bool} {cs : List Char} {ps : List Nat} (h : pieces? ends cs = some ps) :
    ∀ p ∈ ps, p < 65536 := by
  rw [pieces?] at h
  split at h
  · cases h
    exact nofun
  dsimp only at h
  split at h
  · cases h
  split at h
  · obtain ⟨fs, hfs, h⟩ := Option.bind_eq_some_iff.mp h
    obtain ⟨ls, hls, h⟩ := Option.bind_eq_some_iff.mp h
    cases h
    intro p hp
    rcases List.mem_append.mp hp with hp | hp
    · exact forall_of_mapM_eq_some (fun _ _ => piece?_lt) hfs p hp
    · exact dotted?_lt hls p hp
  · exact forall_of_mapM_eq_some (fun _ _ => piece?_lt) h

theorem proper_of_parse? {cs : List Char} {ps : List Nat} (h : parse? cs = some ps) :
    Proper ps := by
  rw [parse?] at h
  split at h
  · obtain ⟨qs, hqs, h⟩ := Option.bind_eq_some_iff.mp h
    split at h
    · next hlen =>
      cases h
      exact ⟨hlen, pieces?_lt hqs⟩
    · cases h
  · obtain ⟨ls, hls, h⟩ := Option.bind_eq_some_iff.mp h
    obtain ⟨rs, hrs, h⟩ := Option.bind_eq_some_iff.mp h
    split at h
    · next hlen =>
      cases h
      refine ⟨?_, fun p hp => ?_⟩
      · simp only [List.length_append, List.length_replicate]
        omega
      · rcases List.mem_append.mp hp with hp | hp
        · rcases List.mem_append.mp hp with hp | hp
          · exact pieces?_lt hls p hp
          · rw [List.eq_of_mem_replicate hp]
            decide
        · exact pieces?_lt hrs p hp
    · cases h

/-! ### what is written -/

theorem mem_hexDigits {n : Nat} (h : n < 65536) {c : Char} (hc : c ∈ hexDigits n) :
    ∃ k < 16, c = Hex.lower k := by
  obtain ⟨ks, hks⟩ := exists_written h
  rw [hks.digits] at hc
  obtain ⟨k, hk, rfl⟩ := List.mem_map.mp hc
  exact ⟨k, hks.lt k hk, rfl⟩

theorem hexDigits_ne_nil {n : Nat} (h : n < 65536) : hexDigits n ≠ [] := by
  obtain ⟨ks, hks⟩ := exists_written h
  rw [hks.digits, Ne, List.map_eq_nil_iff]
  exact hks.ne_nil

theorem not_mem_hexDigits {n : Nat} (h : n < 65536) {c : Char} (hc : ∀ k < 16, Hex.lower k ≠ c) :
    c ∉ hexDigits n := by
  intro hmem
  obtain ⟨k, hk, he⟩ := mem_hexDigits h hmem
  exact hc k hk he.symm

theorem colon_not_mem_hexDigits {n : Nat} (h : n < 65536) : ':' ∉ hexDigits n :=
  not_mem_hexDigits h (by decide)

section
variable {ps : List Nat}

theorem join_cons_cons (p q : Nat) (ps : List Nat) :
    join (p :: q :: ps) = hexDigits p ++ ':' :: join (q :: ps) :=
  Text.intercalate_cons_cons ':' _ _ _

theorem join_singleton (p : Nat) : join [p] = hexDigits p := List.intercalate_singleton

/-- the text of some pieces begins with a digit -/
theorem exists_join_eq_cons {p : Nat} (h : p < 65536) (ps : List Nat) :
    ∃ c cs, join (p :: ps) = c :: cs ∧ c ≠ ':' := by
  obtain ⟨c, cs, hp⟩ := List.exists_cons_of_ne_nil (hexDigits_ne_nil h)
  have hjoin : join (p :: ps) = c :: [':'].intercalate (cs :: ps.map hexDigits) := by
    rw [join, List.map_cons, hp, List.intercalate_cons_cons_left]
  exact ⟨c, _, hjoin, fun he => colon_not_mem_hexDigits h (hp ▸ he ▸ List.mem_cons_self)⟩

theorem splitOn_join (hne : ps ≠ []) (h : ∀ p ∈ ps, p < 65536) :
    List.splitOn ':' (join ps) = ps.map hexDigits := by
  refine List.splitOn_intercalate ':' (fun piece hpiece => ?_) (mt List.map_eq_nil_iff.mp hne)
  obtain ⟨p, hp, rfl⟩ := List.mem_map.mp hpiece
  exact colon_not_mem_hexDigits (h p hp)

theorem pieces?_join (ends : Bool) (h : ∀ p ∈ ps, p < 65536) :
    pieces? ends (join ps) = some ps := by
  cases ps with
  | nil => rfl
  | cons p ps =>
    obtain ⟨c, cs, hcons, -⟩ := exists_join_eq_cons (h p List.mem_cons_self) ps
    have hlast : ((p :: ps).map hexDigits).getLast? =
        some (hexDigits ((p :: ps).getLast (List.cons_ne_nil p ps))) := by
      rw [List.getLast?_map, List.getLast?_eq_getLast_of_ne_nil (List.cons_ne_nil p ps)]
      rfl
    have hdot : '.' ∉ hexDigits ((p :: ps).getLast (List.cons_ne_nil p ps)) :=
      not_mem_hexDigits (h _ (List.getLast_mem _)) (by decide)
    rw [pieces?, if_neg (by rw [hcons]; exact List.cons_ne_nil c cs),
      splitOn_join (List.cons_ne_nil p ps) h]
    dsimp only
    rw [hlast]
    show (if ends = true ∧ _ then _ else _) = _
    rw [if_neg fun hends => hdot hends.2]
    refine mapM_map_eq_some fun q hq => ?_
    obtain ⟨ks, hks⟩ := exists_written (h q hq)
    exact hks.piece?

/-! ### the double colon -/

theorem cut?_append {left : List Char} (h : ':' ∉ left) (cs : List Char) :
    cut? (left ++ cs) = (cut? cs).map fun (l, r) => (left ++ l, r) := by
  induction left with
  | nil => exact (congrFun Option.map_id _).symm
  | cons c left ih =>
    have hc : ':' ≠ c := List.ne_of_not_mem_cons h
    rw [List.cons_append, cut?, ih (List.not_mem_of_not_mem_cons h), Option.map_map]
    · rfl
    · exact fun _ he => absurd he.symm hc

theorem cut?_colon {c : Char} (h : c ≠ ':') (cs : List Char) :
    cut? (':' :: c :: cs) = (cut? (c :: cs)).map fun (l, r) => (':' :: l, r) := by
  rw [cut?]
  rintro rest - he
  exact h (List.cons.inj he).1

/-- pieces hold no double colon -/
theorem cut?_join (h : ∀ p ∈ ps, p < 65536) (cs : List Char) :
    cut? (join ps ++ cs) = (cut? cs).map fun (l, r) => (join ps ++ l, r) := by
  induction ps with
  | nil => exact (congrFun Option.map_id _).symm
  | cons p ps ih =>
    obtain ⟨hp, hps⟩ := List.forall_mem_cons.mp h
    cases ps with
    | nil =>
      rw [join_singleton]
      exact cut?_append (colon_not_mem_hexDigits hp) cs
    | cons q ps =>
      obtain ⟨c, rest, hcons, hc⟩ := exists_join_eq_cons (hps q List.mem_cons_self) ps
      have ihq := ih hps
      rw [hcons] at ihq
      rw [join_cons_cons, hcons, List.append_assoc, cut?_append (colon_not_mem_hexDigits hp),
        List.cons_append, List.cons_append, cut?_colon hc, ← List.cons_append, ihq, Option.map_map,
        Option.map_map]
      congr 1
      funext x
      simp

/-! ### the longest run of zeros -/

/-- the longer one of a run and the run that begins at `i` -/
def longer (ps : List Nat) (best : Nat × Nat) (i : Nat) : Nat × Nat :=
  if best.2 < zeroRun (ps.drop i) then (i, zeroRun (ps.drop i)) else best

theorem longestRun_eq (ps : List Nat) :
    longestRun ps = (List.range ps.length).foldl (longer ps) (0, 0) := rfl

theorem foldl_longer_le {best : Nat × Nat} (h : best.2 ≤ zeroRun (ps.drop best.1))
    (is : List Nat) : (is.foldl (longer ps) best).2 ≤
      zeroRun (ps.drop (is.foldl (longer ps) best).1) := by
  induction is generalizing best with
  | nil => exact h
  | cons i is ih =>
    refine ih ?_
    rw [longer]
    split
    · exact Nat.le_refl _
    · exact h

theorem longestRun_le (ps : List Nat) :
    (longestRun ps).2 ≤ zeroRun (ps.drop (longestRun ps).1) := by
  rw [longestRun_eq]
  exact foldl_longer_le (Nat.zero_le _) _

theorem eq_zeros_append {n : Nat} (h : n ≤ zeroRun ps) : ps = List.replicate n 0 ++ ps.drop n := by
  induction n generalizing ps with
  | zero => rfl
  | succ n ih =>
    cases ps with
    | nil => exact absurd h (Nat.not_succ_le_zero n)
    | cons p ps =>
      rw [zeroRun, List.takeWhile_cons] at h
      split at h
      · next hp =>
        have hzero : p = 0 := of_decide_eq_true hp
        rw [List.replicate_succ, List.cons_append, List.drop_succ_cons,
          ← ih (Nat.le_of_succ_le_succ h), hzero]
      · exact absurd h (Nat.not_succ_le_zero n)

theorem length_zeroRun_le (ps : List Nat) : zeroRun ps ≤ ps.length :=
  (List.takeWhile_prefix _).length_le

theorem parse?_text (h : Proper ps) : parse? (text ps) = some ps := by
  have hle := longestRun_le ps
  rw [text]
  generalize longestRun ps = best at hle
  obtain ⟨start, run⟩ := best
  dsimp only at hle ⊢
  split
  · have hcut : cut? (join ps) = none := by
      have := cut?_join h.lt []
      rwa [List.append_nil] at this
    rw [parse?, hcut]
    show (pieces? true (join ps) >>= _) = _
    rw [pieces?_join true h.lt]
    exact if_pos h.length
  · next hrun =>
    have hleft : ∀ p ∈ ps.take start, p < 65536 := fun p hp => h.lt p (List.mem_of_mem_take hp)
    have hright : ∀ p ∈ ps.drop (start + run), p < 65536 :=
      fun p hp => h.lt p (List.mem_of_mem_drop hp)
    have hzeros := eq_zeros_append hle
    have hlength := length_zeroRun_le (ps.drop start)
    rw [List.length_drop, h.length] at hlength
    have hcut : cut? (join (ps.take start) ++ [':', ':'] ++ join (ps.drop (start + run))) =
        some (join (ps.take start), join (ps.drop (start + run))) := by
      rw [List.append_assoc, cut?_join hleft]
      show some (join (ps.take start) ++ [], join (ps.drop (start + run))) = _
      rw [List.append_nil]
    rw [parse?, hcut]
    show (pieces? false _ >>= fun ls => pieces? true _ >>= fun rs => _) = _
    rw [pieces?_join false hleft, pieces?_join true hright]
    show (if (ps.take start).length + (ps.drop (start + run)).length < 8 then _ else none) = _
    rw [List.length_take, List.length_drop, h.length, if_pos (by omega)]
    have hnumber : 8 - min start 8 - (8 - (start + run)) = run := by omega
    rw [hnumber, ← List.drop_drop, List.append_assoc, ← hzeros, List.take_append_drop]

end

end Ipv6

end QueryDesk
