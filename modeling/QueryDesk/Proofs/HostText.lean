import QueryDesk.Http.Url
import QueryDesk.Proofs.AddressText
import QueryDesk.Proofs.EncodedText
import QueryDesk.Proofs.NameForm

/-!
# Hosts are read back

* `Host.Proper`       a host in normal form;
* `Host.mem_chars`    the characters of such a host;
* `splitHost_chars`   a host ends in front of its port.

**`Host.proper_of_read`**: a host that was read is in normal form.  **`Host.read_chars`**: a host
in normal form is read back from its text.
-/

namespace QueryDesk

/-! ## addresses -/

theorem Ipv4.numeric_text {a : Nat} {c : Char} (h : c ∈ text a) : Domain.Numeric c := by
  rw [text_eq] at h
  rcases Text.mem_intercalate h with rfl | ⟨piece, hpiece, hc⟩
  · exact .inr rfl
  · obtain ⟨n, -, rfl⟩ := List.mem_map.mp hpiece
    exact .inl (Digits.isDigit_of_mem_digits n c hc)

theorem Ipv6.mem_join {ps : List Nat} (h : ∀ p ∈ ps, p < 65536) {c : Char} (hc : c ∈ join ps) :
    c = ':' ∨ ∃ k < 16, c = Hex.lower k := by
  refine (Text.mem_intercalate hc).imp_right fun ⟨piece, hpiece, hc⟩ => ?_
  obtain ⟨p, hp, rfl⟩ := List.mem_map.mp hpiece
  exact mem_hexDigits (h p hp) hc

theorem Ipv6.mem_text {ps : List Nat} (h : ∀ p ∈ ps, p < 65536) {c : Char} (hc : c ∈ text ps) :
    c = ':' ∨ ∃ k < 16, c = Hex.lower k := by
  rw [text] at hc
  generalize longestRun ps = best at hc
  obtain ⟨start, run⟩ := best
  dsimp only at hc
  split at hc
  · exact mem_join h hc
  · rw [List.mem_append, List.mem_append] at hc
    rcases hc with (hc | hc) | hc
    · exact mem_join (fun p hp => h p (List.mem_of_mem_take hp)) hc
    · simp only [List.mem_cons, List.not_mem_nil, or_false, or_self] at hc
      exact .inl hc
    · exact mem_join (fun p hp => h p (List.mem_of_mem_drop hp)) hc

/-! ## hosts -/

namespace Url

/-- a host in normal form -/
def Host.Proper : Host → Prop
  | domain name => name ≠ [] ∧ Domain.ascii? name = some name ∧ Ipv4.isAddress name = false
  | ipv4 address => address < 2 ^ 32
  | ipv6 pieces => Ipv6.Proper pieces

theorem Host.proper_of_read {cs : List Char} {host : Host} (h : read cs = .ok host) :
    host.Proper := by
  unfold read at h
  split at h
  · split at h
    · split at h
      · next pieces hparse =>
        cases h
        exact Ipv6.proper_of_parse? hparse
      · cases h
    · cases h
  · split at h
    · cases h
    · cases h
    · next name hne hname =>
      obtain ⟨written, -, hform⟩ := Option.bind_eq_some_iff.mp hname
      split at h
      · split at h
        · next address hparse =>
          cases h
          exact Ipv4.parse?_lt hparse
        · cases h
      · next haddress =>
        cases h
        exact ⟨hne, Domain.ascii?_ascii? hform, eq_false_of_ne_true haddress⟩

private theorem lower_all :
    ∀ k < 16, Domain.isForbidden (Hex.lower k) = false ∧ Hex.lower k ∉ ['[', ']', ':'] := by decide

theorem Host.mem_chars {host : Host} (h : host.Proper) {c : Char} (hc : c ∈ host.chars) :
    Domain.isForbidden c = false ∨ c ∈ ['[', ']', ':'] := by
  cases host with
  | domain name => exact .inl (Domain.not_forbidden_of_ascii? h.2.1 hc)
  | ipv4 address => exact .inl (Ipv4.numeric_text hc).facts.2.1
  | ipv6 pieces =>
    rcases List.mem_cons.mp hc with rfl | hc
    · exact .inr (by decide)
    rcases List.mem_append.mp hc with hc | hc
    · rcases Ipv6.mem_text h.lt hc with rfl | ⟨k, hk, rfl⟩
      · exact .inr (by decide)
      · exact .inl (lower_all k hk).1
    · rw [List.mem_singleton.mp hc]
      exact .inr (by decide)

theorem Host.chars_ne_nil {host : Host} (h : host.Proper) : host.chars ≠ [] := by
  cases host with
  | domain name => exact h.1
  | ipv4 address => exact List.append_ne_nil_of_right_ne_nil _ (List.cons_ne_nil _ _)
  | ipv6 pieces => exact List.cons_ne_nil _ _

/-- a text that holds nothing that is forbidden in a name is looked through as it is -/
theorem Host.read_of_not_forbidden {cs : List Char}
    (h : ∀ c ∈ cs, Domain.isForbidden c = false) (hform : Domain.ascii? cs = some cs)
    (hne : cs ≠ []) : read cs =
      if Ipv4.isAddress cs then
        match Ipv4.parse? cs with
        | some address => .ok (ipv4 address)
        | none => .error .badIpv4
      else .ok (domain cs) := by
  have hbracket : ∀ rest, cs ≠ '[' :: rest := by
    rintro rest rfl
    exact absurd (h '[' List.mem_cons_self) (by decide)
  have hpercent : '%' ∉ cs := fun hmem => absurd (h '%' hmem) (by decide)
  have hname : (Percent.text? (Percent.decode cs)).bind Domain.ascii? = some cs := by
    rw [Percent.text?_decode hpercent]
    exact hform
  unfold read
  split
  · next rest => exact absurd rfl (hbracket rest)
  · rw [hname]
    split
    · next heq => cases heq
    · next heq => exact absurd (Option.some.inj heq) hne
    · next heq =>
      cases heq
      rfl

theorem Host.read_chars {host : Host} (h : host.Proper) : read host.chars = .ok host := by
  cases host with
  | domain name =>
    have hchars : ∀ c ∈ name, Domain.isForbidden c = false :=
      fun c hc => Domain.not_forbidden_of_ascii? h.2.1 hc
    show read name = _
    rw [read_of_not_forbidden hchars h.2.1 h.1, h.2.2]
    rfl
  | ipv4 address =>
    have hnumeric : ∀ c ∈ Ipv4.text address, Domain.Numeric c := fun c hc => Ipv4.numeric_text hc
    show read (Ipv4.text address) = _
    rw [read_of_not_forbidden (fun c hc => (hnumeric c hc).facts.2.1)
      (Domain.ascii?_of_numeric hnumeric) (chars_ne_nil h), Ipv4.isAddress_text, Ipv4.parse?_text h]
    rfl
  | ipv6 pieces =>
    show read ('[' :: (Ipv6.text pieces ++ [']'])) = _
    rw [read, List.getLast?_concat, if_pos rfl, List.dropLast_concat, Ipv6.parse?_text h]

/-! ## where a host ends -/

theorem splitHost_append {p : List Char} {inside : Bool}
    (h : ∀ c ∈ p, c ≠ '[' ∧ c ≠ ']' ∧ (inside = false → c ≠ ':')) (rest : List Char) :
    splitHost inside (p ++ rest) =
      (p ++ (splitHost inside rest).1, (splitHost inside rest).2) := by
  induction p with
  | nil => rfl
  | cons c p ih =>
    obtain ⟨⟨hopen, hclose, hcolon⟩, hp⟩ := List.forall_mem_cons.mp h
    rw [List.cons_append, splitHost, if_neg fun he => hcolon he.2 he.1, if_neg hopen, if_neg hclose,
      ih hp]
    rfl

/-- a port with its colon, or nothing -/
theorem splitHost_port {rest : List Char} (h : rest = [] ∨ ∃ ds, rest = ':' :: ds) :
    splitHost false rest = ([], rest) := by
  rcases h with rfl | ⟨ds, rfl⟩
  · rfl
  · rw [splitHost, if_pos ⟨rfl, rfl⟩]

theorem splitHost_chars {host : Host} (h : host.Proper) {rest : List Char}
    (hrest : rest = [] ∨ ∃ ds, rest = ':' :: ds) :
    splitHost false (host.chars ++ rest) = (host.chars, rest) := by
  have hplain : ∀ cs : List Char, (∀ c ∈ cs, Domain.isForbidden c = false) →
      splitHost false (cs ++ rest) = (cs, rest) := by
    intro cs hcs
    rw [splitHost_append, splitHost_port hrest, List.append_nil]
    intro c hc
    refine ⟨?_, ?_, fun _ => ?_⟩
    all_goals
      rintro rfl
      exact absurd (hcs _ hc) (by decide)
  cases host with
  | domain name => exact hplain name fun c hc => Domain.not_forbidden_of_ascii? h.2.1 hc
  | ipv4 address =>
    exact hplain (Ipv4.text address) fun c hc => (Ipv4.numeric_text hc).facts.2.1
  | ipv6 pieces =>
    have hinside : splitHost true (Ipv6.text pieces ++ ']' :: rest) =
        (Ipv6.text pieces ++ [']'], rest) := by
      rw [splitHost_append, splitHost, if_neg (by simp), if_neg (by decide), if_pos rfl,
        splitHost_port hrest]
      intro c hc
      rcases Ipv6.mem_text h.lt hc with rfl | ⟨k, hk, rfl⟩
      · exact ⟨by decide, by decide, nofun⟩
      · have := (lower_all k hk).2
        exact ⟨fun he => this (by rw [he]; decide), fun he => this (by rw [he]; decide), nofun⟩
    show splitHost false ('[' :: (Ipv6.text pieces ++ [']'] ++ rest)) = _
    rw [splitHost, if_neg (by decide), if_pos rfl, List.append_assoc, List.singleton_append,
      hinside]
    rfl

end Url

end QueryDesk
