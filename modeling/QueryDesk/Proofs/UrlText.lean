import QueryDesk.Proofs.HostText

/-!
# Addresses are read back

* `Segment`, `Proper`        a segment of a path, and an address, in normal form;
* `segment_of_mem_follow`    following a path keeps its segments in normal form;
* `Authority.read_authority`, `port?_portChars`, `readPath_flatMap`   the parts of an address are
  read back;
* `authority_plain`, `cutAt_fragment`, `cutAt_query`   where each part ends.

**`proper_of_read`**: an address that was read is in normal form.  **`read_text`**: an address in
normal form is read back from its text.
-/

namespace QueryDesk.Url

/-! ## normal form -/

/-- what stands between slashes, once it is encoded -/
structure Piece (s : List Char) : Prop where
  encoded : Percent.Encoded Percent.pathSet s
  slash : '/' ∉ s
  backslash : '\\' ∉ s

/-- a segment that stays as it is where a path is read -/
structure Segment (s : List Char) : Prop extends Piece s where
  dot : isDot s = false
  doubleDot : isDoubleDot s = false

theorem segment_nil : Segment [] := ⟨⟨nofun, List.not_mem_nil, List.not_mem_nil⟩, rfl, rfl⟩

/-- all parts in normal form -/
structure Proper (u : Url) : Prop where
  user : Percent.Encoded Percent.userSet u.user
  password : Percent.Encoded Percent.userSet u.password
  host : u.host.Proper
  port : ∀ p, u.port = some p → p ≤ 65535 ∧ p ≠ u.scheme.port
  path_ne_nil : u.path ≠ []
  path : ∀ s ∈ u.path, Segment s
  query : ∀ q, u.query = some q → Percent.Encoded Percent.querySet q
  fragment : ∀ f, u.fragment = some f → Percent.Encoded Percent.fragmentSet f

/-! ## what is read is in normal form -/

/-- a path that ends with a slash where nothing comes any more -/
def close (rest path : List (List Char)) : List (List Char) :=
  if rest = [] then path ++ [[]] else path

theorem follow_cons (path : List (List Char)) (segment : List Char) (rest : List (List Char)) :
    follow path (segment :: rest) =
      if isDoubleDot segment then follow (close rest path.dropLast) rest
      else if isDot segment then follow (close rest path) rest
      else follow (path ++ [segment]) rest := rfl

theorem segment_of_mem_close {path : List (List Char)} (h : ∀ s ∈ path, Segment s)
    (rest : List (List Char)) : ∀ s ∈ close rest path, Segment s := by
  rw [close]
  split
  · exact List.forall_mem_append.mpr ⟨h, List.forall_mem_singleton.mpr segment_nil⟩
  · exact h

theorem close_ne_nil (rest path : List (List Char)) : close rest path ≠ [] ∨ rest ≠ [] := by
  rw [close]
  split
  · exact .inl (List.append_ne_nil_of_right_ne_nil path (List.cons_ne_nil _ _))
  · next hne => exact .inr hne

theorem segment_of_mem_follow {path segments : List (List Char)} (hpath : ∀ s ∈ path, Segment s)
    (hsegments : ∀ s ∈ segments, Piece s) : ∀ s ∈ follow path segments, Segment s := by
  induction segments generalizing path with
  | nil => exact hpath
  | cons segment rest ih =>
    obtain ⟨hsegment, hrest⟩ := List.forall_mem_cons.mp hsegments
    rw [follow_cons]
    split
    · have hinit : ∀ s ∈ path.dropLast, Segment s := fun s hs =>
        hpath s (List.dropLast_subset path hs)
      exact ih (segment_of_mem_close hinit rest) hrest
    · next hdouble =>
      split
      · exact ih (segment_of_mem_close hpath rest) hrest
      · next hdot =>
        refine ih (List.forall_mem_append.mpr ⟨hpath, List.forall_mem_singleton.mpr ?_⟩) hrest
        exact ⟨hsegment, eq_false_of_ne_true hdot, eq_false_of_ne_true hdouble⟩

theorem follow_ne_nil {path segments : List (List Char)} (h : path ≠ [] ∨ segments ≠ []) :
    follow path segments ≠ [] := by
  induction segments generalizing path with
  | nil => exact h.resolve_right fun hne => hne rfl
  | cons segment rest ih =>
    rw [follow_cons]
    split
    · exact ih (close_ne_nil rest _)
    split
    · exact ih (close_ne_nil rest path)
    · exact ih (.inl (List.append_ne_nil_of_right_ne_nil path (List.cons_ne_nil _ _)))

theorem piece_encode {s : List Char} (hslash : '/' ∉ s) (hback : '\\' ∉ s) :
    Piece (Percent.encode Percent.pathSet s) :=
  ⟨Percent.encoded_encode Percent.spares_pathSet s,
    Percent.not_mem_encode hslash (by decide) (by decide),
    Percent.not_mem_encode hback (by decide) (by decide)⟩

/-- slashes for backslashes -/
def straight (cs : List Char) : List Char := cs.map fun c => if c = '\\' then '/' else c

theorem backslash_not_mem_straight (cs : List Char) : '\\' ∉ straight cs := by
  intro h
  obtain ⟨c, -, hc⟩ := List.mem_map.mp h
  split at hc
  · exact absurd hc (by decide)
  · next hne => exact hne hc

theorem readPath_eq (cs : List Char) :
    ∃ rest, (straight cs = '/' :: rest ∨ straight cs = rest) ∧
      readPath cs = follow [] ((List.splitOn '/' rest).map (Percent.encode Percent.pathSet)) := by
  rw [readPath]
  split
  · next rest he => exact ⟨rest, .inl he, rfl⟩
  · exact ⟨straight cs, .inr rfl, rfl⟩

theorem readPath_proper (cs : List Char) :
    readPath cs ≠ [] ∧ ∀ s ∈ readPath cs, Segment s := by
  obtain ⟨rest, hrest, heq⟩ := readPath_eq cs
  have hback : '\\' ∉ rest := by
    intro h
    rcases hrest with he | he
    · exact backslash_not_mem_straight cs (he ▸ List.mem_cons_of_mem _ h)
    · exact backslash_not_mem_straight cs (he ▸ h)
  rw [heq]
  constructor
  · exact follow_ne_nil (.inr (mt List.map_eq_nil_iff.mp (List.splitOn_ne_nil '/' rest)))
  · refine segment_of_mem_follow nofun fun s hs => ?_
    obtain ⟨p, hp, rfl⟩ := List.mem_map.mp hs
    exact piece_encode (Text.not_mem_of_mem_splitOn hp)
      fun h => hback (Text.mem_of_mem_splitOn hp h)

theorem Authority.encoded_read (cs : List Char) :
    Percent.Encoded Percent.userSet (read cs).user ∧
      Percent.Encoded Percent.userSet (read cs).password := by
  unfold read
  split
  · exact ⟨nofun, nofun⟩
  · exact ⟨Percent.encoded_encode Percent.spares_userSet _,
      Percent.encoded_encode Percent.spares_userSet _⟩

theorem port?_le {cs : List Char} {p : Nat} (h : port? cs = .ok (some p)) : p ≤ 65535 := by
  unfold port? at h
  split at h
  · cases h
  split at h
  · cases h
  · next hport =>
    have hle := Nat.not_lt.mp (not_or.mp hport).2
    split at h
    · cases h
    · cases h
      exact hle

theorem encoded_of_map {set : Percent.EncodeSet} (hset : Percent.Spares set)
    {part : Option (List Char)} {cs : List Char} (h : part.map (Percent.encode set) = some cs) :
    Percent.Encoded set cs := by
  obtain ⟨written, -, rfl⟩ := Option.map_eq_some_iff.mp h
  exact Percent.encoded_encode hset written

theorem proper_of_ofParts {scheme : Scheme} {rest : List Char} {u : Url}
    (h : ofParts scheme rest = .ok u) : u.Proper := by
  rw [ofParts] at h
  dsimp only at h
  split at h
  · cases h
  · obtain ⟨host, hhost, h⟩ := exists_of_bind_eq_ok h
    obtain ⟨port, hport, h⟩ := exists_of_bind_eq_ok h
    cases h
    have hencoded := Authority.encoded_read (rest.span fun c => !isEnd true c).1
    have hpath := readPath_proper
      (cutAt '?' (cutAt '#' (rest.span fun c => !isEnd true c).2).1).1
    refine ⟨hencoded.1, hencoded.2, Host.proper_of_read hhost, fun p hp => ?_, hpath.1, hpath.2,
      fun _ => encoded_of_map Percent.spares_querySet,
      fun _ => encoded_of_map Percent.spares_fragmentSet⟩
    dsimp only at hp
    split at hp
    · cases hp
    · next hne =>
      subst hp
      exact ⟨port?_le hport, fun he => hne (congrArg some he)⟩

theorem proper_of_read {s : String} {u : Url} (h : read s = .ok (.web u)) : u.Proper := by
  rw [read] at h
  split at h
  · cases h
  next scheme rest hscheme =>
  dsimp only at h
  split at h
  · obtain ⟨v, hv, h⟩ := exists_of_bind_eq_ok h
    cases h
    exact proper_of_ofParts hv
  split at h
  · obtain ⟨v, hv, h⟩ := exists_of_bind_eq_ok h
    cases h
    exact proper_of_ofParts hv
  split at h
  · obtain ⟨v, hv, h⟩ := exists_of_bind_eq_ok h
    cases h
  split at h
  · obtain ⟨v, hv, h⟩ := exists_of_bind_eq_ok h
    cases h
  split at h
  · obtain ⟨v, hv, h⟩ := exists_of_bind_eq_ok h
    cases h
  · cases h

/-! ## the characters of an address -/

private theorem low_all : ∀ n < 0x21, Percent.userSet (Char.ofNat n) = true ∧
    Percent.pathSet (Char.ofNat n) = true ∧ Percent.querySet (Char.ofNat n) = true ∧
      Percent.fragmentSet (Char.ofNat n) = true := by decide

/-- blanks and control characters are encoded in every part -/
theorem toNat_of_encoded {set : Percent.EncodeSet} (hset : ∀ n < 0x21, set (Char.ofNat n) = true)
    {cs : List Char} (h : Percent.Encoded set cs) {c : Char} (hc : c ∈ cs) : 0x20 < c.toNat := by
  refine Nat.lt_of_not_le fun hle => ?_
  have hlow := hset c.toNat (Nat.lt_succ_of_le hle)
  rw [Char.ofNat_toNat, (h c hc).2] at hlow
  cases hlow

section
variable {u : Url}

/-- the port with its colon -/
def portChars (u : Url) : List Char :=
  match u.port with
  | none => []
  | some p => ':' :: Digits.digits p

theorem authority_eq (u : Url) : u.authority = u.credentials ++ (u.host.chars ++ u.portChars) :=
  List.append_assoc _ _ _

theorem mem_portChars {c : Char} (h : c ∈ u.portChars) : c = ':' ∨ Digits.isDigit c = true := by
  rw [portChars] at h
  split at h
  · cases h
  · next p _ =>
    rcases List.mem_cons.mp h with rfl | h
    · exact .inl rfl
    · exact .inr (Digits.isDigit_of_mem_digits p c h)

/-- a character that is neither a blank nor the end of an authority -/
def Plain (c : Char) : Prop := 0x20 < c.toNat ∧ isEnd true c = false

theorem eq_of_isEnd {c : Char} (h : isEnd true c = true) :
    c = '/' ∨ c = '?' ∨ c = '#' ∨ c = '\\' := by
  simpa [isEnd, or_assoc] using h

theorem plain_of_not_forbidden {c : Char} (h : Domain.isForbidden c = false) : Plain c := by
  refine ⟨Nat.lt_of_not_le fun hle => ?_, Bool.not_eq_true _ ▸ fun he => ?_⟩
  · rw [Domain.isForbidden, decide_eq_true hle] at h
    cases h
  · rcases eq_of_isEnd he with rfl | rfl | rfl | rfl <;> exact absurd h (by decide)

theorem plain_of_encoded {cs : List Char} (h : Percent.Encoded Percent.userSet cs) {c : Char}
    (hc : c ∈ cs) : Plain c := by
  have hset := (h c hc).2
  refine ⟨toNat_of_encoded (fun n hn => (low_all n hn).1) h hc, Bool.not_eq_true _ ▸ fun he => ?_⟩
  rcases eq_of_isEnd he with rfl | rfl | rfl | rfl <;> exact absurd hset (by decide)

theorem plain_credentials (h : u.Proper) {c : Char} (hc : c ∈ u.credentials) : Plain c := by
  rw [credentials] at hc
  split at hc
  · cases hc
  · rw [List.mem_append, List.mem_append, List.mem_singleton] at hc
    rcases hc with (hc | hc) | rfl
    · exact plain_of_encoded h.user hc
    · split at hc
      · cases hc
      · rcases List.mem_cons.mp hc with rfl | hc
        · exact ⟨by decide, rfl⟩
        · exact plain_of_encoded h.password hc
    · exact ⟨by decide, rfl⟩

theorem plain_host (h : u.Proper) {c : Char} (hc : c ∈ u.host.chars) : Plain c := by
  rcases Host.mem_chars h.host hc with hc | hc
  · exact plain_of_not_forbidden hc
  · simp only [List.mem_cons, List.not_mem_nil, or_false] at hc
    rcases hc with rfl | rfl | rfl <;> exact ⟨by decide, rfl⟩

/-- nothing in an authority ends it -/
theorem authority_plain (h : u.Proper) {c : Char} (hc : c ∈ u.authority) : Plain c := by
  rw [authority_eq, List.mem_append, List.mem_append] at hc
  rcases hc with hc | hc | hc
  · exact plain_credentials h hc
  · exact plain_host h hc
  · rcases mem_portChars hc with rfl | hc
    · exact ⟨by decide, rfl⟩
    · exact plain_of_not_forbidden (Domain.Numeric.facts (.inl hc)).2.1

theorem at_not_mem (h : u.Proper) : '@' ∉ u.host.chars ++ u.portChars := by
  intro hc
  rcases List.mem_append.mp hc with hc | hc
  · rcases Host.mem_chars h.host hc with hc | hc
    · exact absurd hc (by decide)
    · exact absurd hc (by decide)
  · rcases mem_portChars hc with hc | hc
    · exact absurd hc (by decide)
    · exact absurd hc (by decide)

theorem exists_authority_eq_cons (h : u.Proper) :
    ∃ c cs, u.authority = c :: cs ∧ c ≠ '/' ∧ c ≠ '\\' := by
  have hne : u.authority ≠ [] := by
    rw [authority_eq]
    exact List.append_ne_nil_of_right_ne_nil _
      (List.append_ne_nil_of_left_ne_nil (Host.chars_ne_nil h.host) _)
  obtain ⟨c, cs, hcons⟩ := List.exists_cons_of_ne_nil hne
  have hc := (authority_plain h (c := c) (hcons ▸ List.mem_cons_self)).2
  refine ⟨c, cs, hcons, ?_, ?_⟩
  · rintro rfl
    cases hc
  · rintro rfl
    cases hc

theorem mem_pathChars (h : u.Proper) {c : Char} (hc : c ∈ u.pathChars) :
    c = '/' ∨ (c.toNat < 0x80 ∧ Percent.pathSet c = false ∧ c ≠ '\\') := by
  obtain ⟨s, hs, hc⟩ := List.mem_flatMap.mp hc
  rcases List.mem_cons.mp hc with rfl | hc
  · exact .inl rfl
  · have hsegment := h.path s hs
    refine .inr ⟨(hsegment.encoded c hc).1, (hsegment.encoded c hc).2, ?_⟩
    rintro rfl
    exact hsegment.backslash hc

/-! ## the parts are read back -/

theorem splitUser_eq_none {cs : List Char} (h : '@' ∉ cs) : splitUser cs = none := by
  have hspan : (cs.reverse ++ []).span (· ≠ '@') = (cs.reverse, []) := by
    refine span_append (fun c hc => decide_eq_true ?_) nofun
    rintro rfl
    exact h (List.mem_reverse.mp hc)
  rw [List.append_nil] at hspan
  rw [splitUser, hspan]

theorem splitUser_append {host : List Char} (h : '@' ∉ host) (user : List Char) :
    splitUser (user ++ '@' :: host) = some (user, host) := by
  have hspan : (host.reverse ++ '@' :: user.reverse).span (· ≠ '@') =
      (host.reverse, '@' :: user.reverse) := by
    refine span_append (fun c hc => decide_eq_true ?_) fun c hc => ?_
    · rintro rfl
      exact h (List.mem_reverse.mp hc)
    · cases hc
      rfl
  rw [splitUser, List.reverse_append, List.reverse_cons, List.append_assoc, List.singleton_append,
    hspan]
  dsimp only
  rw [List.reverse_reverse, List.reverse_reverse]

theorem portChars_eq (u : Url) : u.portChars = [] ∨ ∃ ds, u.portChars = ':' :: ds := by
  rw [portChars]
  split
  · exact .inl rfl
  · exact .inr ⟨_, rfl⟩

theorem Authority.read_authority (h : u.Proper) :
    read u.authority = ⟨u.user, u.password, u.host.chars, u.portChars⟩ := by
  have hhost := splitHost_chars h.host (portChars_eq u)
  rw [authority_eq, credentials]
  split
  · next hnone =>
    rw [List.nil_append, read, splitUser_eq_none (at_not_mem h)]
    dsimp only
    rw [hhost, hnone.1, hnone.2]
  · have hspan : (u.user ++ if u.password = [] then [] else ':' :: u.password).span (· ≠ ':') =
        (u.user, if u.password = [] then [] else ':' :: u.password) := by
      refine span_append (fun c hc => decide_eq_true ?_) fun c hc => ?_
      · rintro rfl
        exact absurd (h.user _ hc).2 (by decide)
      · split at hc
        · cases hc
        · cases hc
          rfl
    have hdrop : (if u.password = [] then [] else ':' :: u.password).drop 1 = u.password := by
      split
      · next hnil => rw [hnil, List.drop_nil]
      · rfl
    rw [List.append_assoc, List.singleton_append, read, splitUser_append (at_not_mem h)]
    dsimp only
    rw [hspan, hhost]
    dsimp only
    rw [hdrop, h.user.encode_eq, h.password.encode_eq]

theorem port?_portChars (h : u.Proper) : port? u.portChars = .ok u.port := by
  rw [portChars]
  cases hport : u.port with
  | none => rfl
  | some p =>
    have hdigits : (Digits.digits p).all Digits.isDigit = true :=
      List.all_eq_true.mpr (Digits.isDigit_of_mem_digits p)
    have hle := (h.port p hport).1
    rw [port?, hdigits, Digits.value_digits, if_neg (by simp; omega),
      if_neg (Digits.digits_ne_nil p)]

theorem cutAt_marked {mark : Char} {cs : List Char} (h : mark ∉ cs) (behind : Option (List Char)) :
    cutAt mark (cs ++ marked mark behind) = (cs, behind) := by
  have hspan : (cs ++ marked mark behind).span (· ≠ mark) = (cs, marked mark behind) := by
    refine span_append (fun c hc => decide_eq_true ?_) fun c hc => ?_
    · rintro rfl
      exact h hc
    · cases behind with
      | none => cases hc
      | some behind =>
        cases hc
        exact decide_eq_false fun hne => hne rfl
  rw [cutAt, hspan]
  cases behind with
  | none => rfl
  | some behind => rfl

theorem follow_segments {segments : List (List Char)} (h : ∀ s ∈ segments, Segment s)
    (path : List (List Char)) : follow path segments = path ++ segments := by
  induction segments generalizing path with
  | nil => rw [follow, List.append_nil]
  | cons segment rest ih =>
    obtain ⟨hsegment, hrest⟩ := List.forall_mem_cons.mp h
    rw [follow]
    dsimp only
    rw [hsegment.doubleDot, hsegment.dot]
    show follow (path ++ [segment]) rest = _
    rw [ih hrest, List.append_assoc, List.singleton_append]

theorem flatMap_slash {path : List (List Char)} (h : path ≠ []) :
    path.flatMap ('/' :: ·) = '/' :: List.intercalate ['/'] path := by
  induction path with
  | nil => exact absurd rfl h
  | cons s path ih =>
    cases path with
    | nil => rw [List.flatMap_singleton, List.intercalate_singleton]
    | cons t path =>
      rw [List.flatMap_cons, ih (List.cons_ne_nil t path), Text.intercalate_cons_cons,
        List.cons_append]

theorem straight_eq_self {cs : List Char} (h : '\\' ∉ cs) : straight cs = cs := by
  have hkept : ∀ c ∈ cs, (if c = '\\' then '/' else c) = c := by
    rintro c hc
    refine if_neg ?_
    rintro rfl
    exact h hc
  rw [straight, List.map_congr_left hkept]
  exact List.map_id' cs

theorem readPath_flatMap {path : List (List Char)} (hne : path ≠ []) (h : ∀ s ∈ path, Segment s) :
    readPath (path.flatMap ('/' :: ·)) = path := by
  have hback : '\\' ∉ path.flatMap ('/' :: ·) := by
    intro hmem
    obtain ⟨s, hs, hc⟩ := List.mem_flatMap.mp hmem
    rcases List.mem_cons.mp hc with hc | hc
    · exact absurd hc (by decide)
    · exact (h s hs).backslash hc
  have hencode : path.map (Percent.encode Percent.pathSet) = path := by
    rw [List.map_congr_left fun s hs => (h s hs).encoded.encode_eq]
    exact List.map_id' path
  have hstraight : (path.flatMap ('/' :: ·)).map (fun c => if c = '\\' then '/' else c) =
      '/' :: List.intercalate ['/'] path := (straight_eq_self hback).trans (flatMap_slash hne)
  rw [readPath, hstraight]
  show follow [] ((List.splitOn '/' (List.intercalate ['/'] path)).map _) = path
  rw [List.splitOn_intercalate '/' (fun s hs => (h s hs).slash) hne, hencode, follow_segments h,
    List.nil_append]

/-! ## the whole address -/

theorem clean_eq_self {cs : List Char} (h : ∀ c ∈ cs, 0x20 < c.toNat) : clean cs = cs := by
  have houter : ∀ ds : List Char, (∀ c ∈ ds, 0x20 < c.toNat) →
      ds.dropWhile (fun c => decide (c.toNat ≤ 0x20)) = ds := by
    intro ds hds
    cases ds with
    | nil => rfl
    | cons d ds =>
      refine List.dropWhile_cons_of_neg fun hd => ?_
      exact absurd (of_decide_eq_true hd) (Nat.not_le.mpr (hds d List.mem_cons_self))
  have hinner : ∀ c ∈ cs, (decide (c ≠ '\t') && decide (c ≠ '\n') && decide (c ≠ '\r')) = true := by
    intro c hc
    have := h c hc
    rw [Bool.and_eq_true, Bool.and_eq_true]
    refine ⟨⟨decide_eq_true ?_, decide_eq_true ?_⟩, decide_eq_true ?_⟩
    all_goals
      rintro rfl
      exact absurd this (by decide)
  rw [clean, houter cs h, houter cs.reverse fun c hc => h c (List.mem_reverse.mp hc),
    List.reverse_reverse, List.filter_eq_self.mpr hinner]

theorem scheme?_chars (scheme : Scheme) (rest : List Char) :
    scheme? (scheme.chars ++ ':' :: rest) = some (scheme.chars, rest) := by
  cases scheme <;> rfl

theorem map_encode {set : Percent.EncodeSet} {part : Option (List Char)}
    (h : ∀ cs, part = some cs → Percent.Encoded set cs) : part.map (Percent.encode set) = part := by
  cases part with
  | none => rfl
  | some cs => rw [Option.map_some, (h cs rfl).encode_eq]

/-- what stands behind an authority -/
def behind (u : Url) : List Char := u.pathChars ++ marked '?' u.query ++ marked '#' u.fragment

theorem chars_eq (u : Url) : u.chars = u.scheme.chars ++ ':' :: '/' :: '/' ::
    (u.authority ++ u.behind) := by
  simp [chars, behind]

theorem exists_pathChars_eq_cons (h : u.path ≠ []) : ∃ cs, u.pathChars = '/' :: cs :=
  ⟨_, flatMap_slash h⟩

theorem cutAt_fragment (h : u.Proper) :
    cutAt '#' u.behind = (u.pathChars ++ marked '?' u.query, u.fragment) := by
  refine cutAt_marked (fun hmem => ?_) u.fragment
  rcases List.mem_append.mp hmem with hc | hc
  · rcases mem_pathChars h hc with hc | ⟨-, hc, -⟩
    · exact absurd hc (by decide)
    · exact absurd hc (by decide)
  · cases hquery : u.query with
    | none =>
      rw [hquery] at hc
      cases hc
    | some q =>
      rw [hquery] at hc
      rcases List.mem_cons.mp hc with hc | hc
      · exact absurd hc (by decide)
      · exact absurd (h.query q hquery _ hc).2 (by decide)

theorem cutAt_query (h : u.Proper) :
    cutAt '?' (u.pathChars ++ marked '?' u.query) = (u.pathChars, u.query) := by
  refine cutAt_marked (fun hc => ?_) u.query
  rcases mem_pathChars h hc with hc | ⟨-, hc, -⟩
  · exact absurd hc (by decide)
  · exact absurd hc (by decide)

theorem ofParts_chars (h : u.Proper) : ofParts u.scheme (u.authority ++ u.behind) = .ok u := by
  have hspan : (u.authority ++ u.behind).span (fun c => !isEnd true c) =
      (u.authority, u.behind) := by
    refine span_append (fun c hc => ?_) fun c hc => ?_
    · rw [(authority_plain h hc).2]
      rfl
    · obtain ⟨cs, hcs⟩ := exists_pathChars_eq_cons h.path_ne_nil
      rw [behind, hcs] at hc
      cases hc
      rfl
  have hport : (if u.port = some u.scheme.port then none else u.port) = u.port :=
    if_neg fun hp => (h.port _ hp).2 rfl
  rw [ofParts, hspan]
  dsimp only
  rw [Authority.read_authority h]
  dsimp only
  rw [if_neg (Host.chars_ne_nil h.host), Host.read_chars h.host, port?_portChars h,
    cutAt_fragment h]
  dsimp only
  rw [cutAt_query h]
  show Except.ok (Url.mk u.scheme u.user u.password u.host _ (readPath u.pathChars) _ _) = .ok u
  rw [hport, map_encode h.query, map_encode h.fragment, pathChars,
    readPath_flatMap h.path_ne_nil h.path]

theorem chars_visible (h : u.Proper) : ∀ c ∈ u.chars, 0x20 < c.toNat := by
  have hmarked : ∀ {set : Percent.EncodeSet} {mark : Char} {part : Option (List Char)},
      (∀ n < 0x21, set (Char.ofNat n) = true) → 0x20 < mark.toNat →
      (∀ cs, part = some cs → Percent.Encoded set cs) →
      ∀ c ∈ marked mark part, 0x20 < c.toNat := by
    intro set mark part hset hmark hpart c hc
    cases part with
    | none => cases hc
    | some cs =>
      rcases List.mem_cons.mp hc with rfl | hc
      · exact hmark
      · exact toNat_of_encoded hset (hpart cs rfl) hc
  have hscheme : ∀ c ∈ u.scheme.chars, 0x20 < c.toNat := by
    have hall : u.scheme.chars.all (fun c => decide (0x20 < c.toNat)) = true := by
      cases u.scheme <;> rfl
    exact fun c hc => of_decide_eq_true (List.all_eq_true.mp hall c hc)
  rw [chars_eq, behind]
  simp only [List.forall_mem_append, List.forall_mem_cons]
  refine ⟨hscheme, by decide, by decide, by decide, fun c hc => (authority_plain h hc).1,
    ⟨fun c hc => ?_, hmarked (fun n hn => (low_all n hn).2.2.1) (by decide) h.query⟩,
    hmarked (fun n hn => (low_all n hn).2.2.2) (by decide) h.fragment⟩
  obtain ⟨s, hs, hc⟩ := List.mem_flatMap.mp hc
  rcases List.mem_cons.mp hc with rfl | hc
  · decide
  · exact toNat_of_encoded (fun n hn => (low_all n hn).2.1) (h.path s hs).encoded hc

theorem read_text (h : u.Proper) : read u.text = .ok (.web u) := by
  obtain ⟨c, cs, hcons, hslash, hback⟩ := exists_authority_eq_cons h
  have hdrop : (('/' :: '/' :: (u.authority ++ u.behind)).dropWhile
      fun c => decide (c = '/') || decide (c = '\\')) = u.authority ++ u.behind := by
    rw [List.dropWhile_cons_of_pos rfl, List.dropWhile_cons_of_pos rfl, hcons, List.cons_append]
    refine List.dropWhile_cons_of_neg ?_
    simp [hslash, hback]
  have hparts := ofParts_chars h
  rw [read, text, String.toList_ofList, clean_eq_self (chars_visible h), chars_eq, scheme?_chars]
  dsimp only
  rw [hdrop]
  cases hscheme : u.scheme with
  | http =>
    rw [hscheme] at hparts
    rw [if_pos rfl, hparts]
    rfl
  | https =>
    rw [hscheme] at hparts
    rw [if_neg (by decide), if_pos rfl, hparts]
    rfl

end

end QueryDesk.Url
