import Mathlib.Data.List.DropRight
import QueryDesk.Proofs.UrlText
import QueryDesk.Settings.Basic

/-!
# Endpoints below the root

* `withoutSlashes_append`   slashes are taken away at the end only;
* `Url.extend`              an address with more behind it: behind its path, unless a query or a
  fragment stands there;
* `Url.chars_extend`        the address of an endpoint is the text of the root, extended;
* `Url.read_endpoint`       it is read as the extended root;
* `EndpointPath`            names with slashes between them, and any slashes in front;
* `Below`                   an address that differs from the root by its path only, which goes on
  behind that of the root.

**`ApiRoot.endpoints_below`**: endpoints lie below a root that has neither query nor fragment, and
only below such a root.
-/

namespace QueryDesk

/-! ## slashes at the end -/

namespace ApiRoot

theorem withoutSlashes_eq (a : List Char) : withoutSlashes a = a.rdropWhile (· = '/') := rfl

theorem withoutSlashes_append {a : List Char} (h : a.getLast? ≠ some '/') (b : List Char) :
    withoutSlashes (a ++ b) = a ++ withoutSlashes b := by
  rw [withoutSlashes_eq, withoutSlashes_eq]
  induction b using List.reverseRecOn with
  | nil =>
    rw [List.append_nil, List.rdropWhile_nil, List.append_nil, List.rdropWhile_eq_self_iff]
    intro hne hlast
    rw [List.getLast?_eq_getLast_of_ne_nil hne, of_decide_eq_true hlast] at h
    exact h rfl
  | append_singleton b c ih =>
    rw [← List.append_assoc, List.rdropWhile_concat, List.rdropWhile_concat, ih]
    split
    · rfl
    · rw [List.append_assoc]

theorem mem_of_mem_withoutSlashes {a : List Char} {c : Char} (h : c ∈ withoutSlashes a) : c ∈ a :=
  (List.rdropWhile_prefix _ a).subset h

/-- the slashes of a path that go are those of the empty segments at its end -/
theorem withoutSlashes_flatMap {path : List (List Char)} (h : ∀ s ∈ path, '/' ∉ s) :
    withoutSlashes (path.flatMap ('/' :: ·)) = (path.rdropWhile (· = [])).flatMap ('/' :: ·) := by
  rw [withoutSlashes_eq]
  induction path using List.reverseRecOn with
  | nil => rfl
  | append_singleton path s ih =>
    obtain ⟨hpath, hs⟩ := List.forall_mem_append.mp h
    rw [List.flatMap_append, List.flatMap_singleton, List.rdropWhile_concat]
    split
    · next hnil =>
      rw [of_decide_eq_true hnil, List.rdropWhile_concat_pos (· = '/') _ '/' rfl, ih hpath]
    · next hne =>
      have hnil : s ≠ [] := by simpa using hne
      rw [List.flatMap_append, List.flatMap_singleton, List.rdropWhile_eq_self_iff]
      intro _ hlast
      rw [List.getLast_append_of_ne_nil _ (List.cons_ne_nil '/' s), List.getLast_cons hnil] at hlast
      exact hs s List.mem_cons_self (of_decide_eq_true hlast ▸ List.getLast_mem hnil)

theorem exists_eq_withoutSlashes_append (a : List Char) :
    ∃ k, a = withoutSlashes a ++ List.replicate k '/' := by
  refine ⟨(a.rtakeWhile (· = '/')).length, ?_⟩
  have hslashes : a.rtakeWhile (· = '/') = List.replicate (a.rtakeWhile (· = '/')).length '/' :=
    List.eq_replicate_of_mem fun c hc => by simpa using List.mem_rtakeWhile_imp hc
  rw [← hslashes, withoutSlashes_eq, List.rdropWhile_append_rtakeWhile]

end ApiRoot

/-! ## more behind an address -/

namespace Url

open ApiRoot

/-- neither query nor fragment stands behind the path -/
def Bare (u : Url) : Prop := u.query = none ∧ u.fragment = none

/-- an address with a slash and a text behind it -/
def extend (u : Url) (rest : List Char) : Url :=
  match u.query, u.fragment with
  | none, none => { u with path := u.path.rdropWhile (· = []) ++ List.splitOn '/' rest }
  | some q, none => { u with query := some (withoutSlashes q ++ '/' :: rest) }
  | _, some f => { u with fragment := some (withoutSlashes f ++ '/' :: rest) }

/-- what stands in front of the path -/
def front (u : Url) : List Char := u.scheme.chars ++ ':' :: '/' :: '/' :: u.authority

theorem chars_eq_front (u : Url) : u.chars = u.front ++ u.behind := by
  rw [chars_eq, front]
  simp

section
variable {u : Url}

theorem getLast?_front (h : u.Proper) : u.front.getLast? ≠ some '/' := by
  obtain ⟨c, cs, hcons, -⟩ := exists_authority_eq_cons h
  intro hlast
  have hmem : '/' ∈ u.authority := by
    rw [front, List.getLast?_append_of_ne_nil _ (List.cons_ne_nil _ _), hcons] at hlast
    rw [hcons]
    exact List.mem_of_getLast? hlast
  have := (authority_plain h hmem).2
  cases this

theorem withoutSlashes_chars (h : u.front.getLast? ≠ some '/') (hbare : u.Bare) :
    withoutSlashes u.chars = u.front ++ withoutSlashes u.pathChars := by
  rw [chars_eq_front, withoutSlashes_append h, behind, hbare.1, hbare.2]
  simp [marked]

theorem extend_of_bare (hbare : u.Bare) (rest : List Char) :
    u.extend rest = { u with path := u.path.rdropWhile (· = []) ++ List.splitOn '/' rest } := by
  rw [extend, hbare.1, hbare.2]

theorem pathChars_extend (h : u.Proper) (hbare : u.Bare) (rest : List Char) :
    (u.extend rest).pathChars = withoutSlashes u.pathChars ++ '/' :: rest := by
  have hslash : ∀ s ∈ u.path, '/' ∉ s := fun s hs => (h.path s hs).slash
  rw [extend_of_bare hbare]
  show (u.path.rdropWhile (· = []) ++ List.splitOn '/' rest).flatMap ('/' :: ·) = _
  rw [List.flatMap_append, ← withoutSlashes_flatMap hslash, flatMap_slash (List.splitOn_ne_nil _ _),
    List.intercalate_splitOn]
  rfl

/-- slashes behind a mark are not those of the path -/
theorem withoutSlashes_mark {mark : Char} (h : mark ≠ '/') (a cs : List Char) :
    withoutSlashes (a ++ mark :: cs) = a ++ mark :: withoutSlashes cs := by
  have hlast : (a ++ [mark]).getLast? ≠ some '/' := by
    rw [List.getLast?_concat]
    exact fun he => h (Option.some.inj he)
  rw [List.append_cons, withoutSlashes_append hlast, ← List.append_cons]

section
variable {f q : List Char} (rest : List Char)

theorem extend_of_fragment (hfragment : u.fragment = some f) :
    u.extend rest = { u with fragment := some (withoutSlashes f ++ '/' :: rest) } := by
  rw [extend, hfragment]
  cases u.query <;> rfl

theorem extend_of_query (hquery : u.query = some q) (hfragment : u.fragment = none) :
    u.extend rest = { u with query := some (withoutSlashes q ++ '/' :: rest) } := by
  rw [extend, hquery, hfragment]

theorem chars_extend_of_fragment (hfragment : u.fragment = some f) :
    (u.extend rest).chars = withoutSlashes u.chars ++ '/' :: rest := by
  have hchars : u.chars = u.front ++ (u.pathChars ++ marked '?' u.query) ++ '#' :: f := by
    rw [chars_eq_front, behind, hfragment]
    simp [marked]
  rw [hchars, withoutSlashes_mark (by decide), extend_of_fragment rest hfragment, chars_eq_front]
  show u.front ++ (u.pathChars ++ marked '?' u.query ++
    '#' :: (withoutSlashes f ++ '/' :: rest)) = _
  simp

theorem chars_extend_of_query (hquery : u.query = some q) (hfragment : u.fragment = none) :
    (u.extend rest).chars = withoutSlashes u.chars ++ '/' :: rest := by
  have hchars : u.chars = u.front ++ u.pathChars ++ '?' :: q := by
    rw [chars_eq_front, behind, hquery, hfragment]
    simp [marked]
  rw [hchars, withoutSlashes_mark (by decide), extend_of_query rest hquery hfragment,
    chars_eq_front]
  show u.front ++ (u.pathChars ++ '?' :: (withoutSlashes q ++ '/' :: rest) ++
    marked '#' u.fragment) = _
  rw [hfragment]
  simp [marked]

theorem chars_extend_of_bare (h : u.Proper) (hbare : u.Bare) :
    (u.extend rest).chars = withoutSlashes u.chars ++ '/' :: rest := by
  rw [withoutSlashes_chars (getLast?_front h) hbare, List.append_assoc,
    ← pathChars_extend h hbare rest, chars_eq_front, behind, extend_of_bare hbare]
  show u.front ++ (_ ++ marked '?' u.query ++ marked '#' u.fragment) = _
  rw [hbare.1, hbare.2]
  simp [marked]

end

theorem chars_extend (h : u.Proper) (rest : List Char) :
    (u.extend rest).chars = withoutSlashes u.chars ++ '/' :: rest := by
  cases hfragment : u.fragment with
  | some f => exact chars_extend_of_fragment rest hfragment
  | none =>
    cases hquery : u.query with
    | some q => exact chars_extend_of_query rest hquery hfragment
    | none => exact chars_extend_of_bare rest h ⟨hquery, hfragment⟩

/-- a text that stays as it is behind a path, a query or a fragment -/
structure Extension (rest : List Char) : Prop where
  segments : ∀ s ∈ List.splitOn '/' rest, Segment s
  query : Percent.Encoded Percent.querySet ('/' :: rest)
  fragment : Percent.Encoded Percent.fragmentSet ('/' :: rest)

theorem proper_extend (h : u.Proper) {rest : List Char} (hrest : Extension rest) :
    (u.extend rest).Proper := by
  have hkept : ∀ {set : Percent.EncodeSet} {cs : List Char}, Percent.Encoded set cs →
      Percent.Encoded set ('/' :: rest) →
      Percent.Encoded set (withoutSlashes cs ++ '/' :: rest) := by
    intro set cs hcs hrest
    exact List.forall_mem_append.mpr ⟨fun c hc => hcs c (mem_of_mem_withoutSlashes hc), hrest⟩
  rw [extend]
  split
  · refine { h with path_ne_nil := ?_, path := ?_ }
    · exact List.append_ne_nil_of_right_ne_nil _ (List.splitOn_ne_nil '/' rest)
    · exact List.forall_mem_append.mpr
        ⟨fun s hs => h.path s ((List.rdropWhile_prefix _ u.path).subset hs), hrest.segments⟩
  · next q hquery _ =>
    refine { h with query := fun cs hcs => ?_ }
    cases hcs
    exact hkept (h.query q hquery) hrest.query
  · next f hfragment =>
    refine { h with fragment := fun cs hcs => ?_ }
    cases hcs
    exact hkept (h.fragment f hfragment) hrest.fragment

theorem read_endpoint (h : u.Proper) {path : String}
    (hrest : Extension (path.toList.dropWhile (· = '/'))) :
    read ((ApiRoot.mk u).endpoint path) =
      .ok (.web (u.extend (path.toList.dropWhile (· = '/')))) := by
  rw [ApiRoot.endpoint, ← chars_extend h]
  exact read_text (proper_extend h hrest)

end

end Url

/-! ## the paths of endpoints -/

/-- letters, digits, dashes and low lines -/
def isNameChar (c : Char) : Bool := c.isAlphanum || c = '-' || c = '_'

/-- names with slashes between them, and any slashes in front -/
structure EndpointPath (path : List Char) (names : List (List Char)) : Prop where
  chars : ∃ slashes, path = List.replicate slashes '/' ++ List.intercalate ['/'] names
  name : ∀ n ∈ names, n ≠ [] ∧ n.all isNameChar = true

private theorem nameChar_all : ∀ n < 0x80, isNameChar (Char.ofNat n) = true →
    Percent.pathSet (Char.ofNat n) = false ∧ Percent.querySet (Char.ofNat n) = false ∧
      Percent.fragmentSet (Char.ofNat n) = false ∧ Char.ofNat n ≠ '/' ∧ Char.ofNat n ≠ '\\' ∧
      (Char.ofNat n).toLower ≠ '.' ∧ (Char.ofNat n).toLower ≠ '%' := by decide

theorem toNat_of_isNameChar {c : Char} (h : isNameChar c = true) : c.toNat < 0x80 := by
  change (decide ('A'.val ≤ c.val ∧ c.val ≤ 'Z'.val) ||
    (decide ('a'.val ≤ c.val) && decide (c.val ≤ 'z'.val)) ||
    (decide ('0'.val ≤ c.val) && decide (c.val ≤ '9'.val)) || decide (c = '-') ||
    decide (c = '_')) = true at h
  simp only [Bool.or_eq_true, Bool.and_eq_true, decide_eq_true_eq, UInt32.le_iff_toNat_le] at h
  show c.val.toNat < 0x80
  rcases h with ((((⟨-, h⟩ | ⟨-, h⟩) | ⟨-, h⟩) | rfl) | rfl)
  all_goals first | exact Nat.lt_of_le_of_lt h (by decide) | decide

theorem nameChar_facts {c : Char} (h : isNameChar c = true) :
    Percent.pathSet c = false ∧ Percent.querySet c = false ∧ Percent.fragmentSet c = false ∧
      c ≠ '/' ∧ c ≠ '\\' ∧ c.toLower ≠ '.' ∧ c.toLower ≠ '%' := by
  have hall := nameChar_all c.toNat (toNat_of_isNameChar h)
  rw [Char.ofNat_toNat] at hall
  exact hall h

/-- a segment that is dropped begins with a dot or a percent sign -/
theorem mem_of_isDot {s : List Char} (h : Url.isDot s = true ∨ Url.isDoubleDot s = true) :
    ∃ c ∈ s, c.toLower = '.' ∨ c.toLower = '%' := by
  have hhead : ∃ d ∈ s.map Char.toLower, d = '.' ∨ d = '%' := by
    rcases h with h | h
    · have hs := of_decide_eq_true h
      simp only [List.mem_cons, List.not_mem_nil, or_false] at hs
      rcases hs with hs | hs
      · exact ⟨'.', hs ▸ List.mem_cons_self, .inl rfl⟩
      · exact ⟨'%', hs ▸ List.mem_cons_self, .inr rfl⟩
    · have hs := of_decide_eq_true h
      simp only [List.mem_cons, List.not_mem_nil, or_false] at hs
      rcases hs with hs | hs | hs | hs
      · exact ⟨'.', hs ▸ List.mem_cons_self, .inl rfl⟩
      · exact ⟨'.', hs ▸ List.mem_cons_self, .inl rfl⟩
      · exact ⟨'%', hs ▸ List.mem_cons_self, .inr rfl⟩
      · exact ⟨'%', hs ▸ List.mem_cons_self, .inr rfl⟩
  obtain ⟨d, hd, he⟩ := hhead
  obtain ⟨c, hc, rfl⟩ := List.mem_map.mp hd
  exact ⟨c, hc, he⟩

theorem segment_of_name {n : List Char} (h : ∀ c ∈ n, isNameChar c = true) : Url.Segment n := by
  have hdot : ¬(Url.isDot n = true ∨ Url.isDoubleDot n = true) := by
    intro hdot
    obtain ⟨c, hc, he⟩ := mem_of_isDot hdot
    have hfacts := nameChar_facts (h c hc)
    exact he.elim hfacts.2.2.2.2.2.1 hfacts.2.2.2.2.2.2
  refine ⟨⟨fun c hc => ⟨toNat_of_isNameChar (h c hc), (nameChar_facts (h c hc)).1⟩, fun hc => ?_,
    fun hc => ?_⟩, eq_false_of_ne_true fun he => hdot (.inl he),
    eq_false_of_ne_true fun he => hdot (.inr he)⟩
  · exact (nameChar_facts (h _ hc)).2.2.2.1 rfl
  · exact (nameChar_facts (h _ hc)).2.2.2.2.1 rfl

namespace EndpointPath
variable {path : List Char} {names : List (List Char)}

theorem dropWhile_eq (h : EndpointPath path names) :
    path.dropWhile (· = '/') = List.intercalate ['/'] names := by
  obtain ⟨slashes, rfl⟩ := h.chars
  rw [List.dropWhile_append_of_pos fun c hc => decide_eq_true (List.eq_of_mem_replicate hc)]
  cases names with
  | nil => rfl
  | cons n names =>
    obtain ⟨hne, hn⟩ := h.name n List.mem_cons_self
    obtain ⟨c, cs, rfl⟩ := List.exists_cons_of_ne_nil hne
    have hc : c ≠ '/' :=
      (nameChar_facts (List.all_eq_true.mp hn c List.mem_cons_self)).2.2.2.1
    rw [List.intercalate_cons_cons_left, List.dropWhile_cons_of_neg (by simpa using hc)]

theorem extension (h : EndpointPath path names) : Url.Extension (List.intercalate ['/'] names) := by
  have hmem : ∀ c ∈ '/' :: List.intercalate ['/'] names, c = '/' ∨ isNameChar c = true := by
    intro c hc
    rcases List.mem_cons.mp hc with hc | hc
    · exact .inl hc
    · exact (Text.mem_intercalate hc).imp_right fun ⟨n, hn, hc⟩ =>
        List.all_eq_true.mp (h.name n hn).2 c hc
  refine ⟨fun s hs => segment_of_name fun c hc => ?_, fun c hc => ?_, fun c hc => ?_⟩
  · rcases hmem c (List.mem_cons_of_mem _ (Text.mem_of_mem_splitOn hs hc)) with rfl | hname
    · exact absurd hc (Text.not_mem_of_mem_splitOn hs)
    · exact hname
  · rcases hmem c hc with rfl | hname
    · exact ⟨by decide, rfl⟩
    · exact ⟨toNat_of_isNameChar hname, (nameChar_facts hname).2.1⟩
  · rcases hmem c hc with rfl | hname
    · exact ⟨by decide, rfl⟩
    · exact ⟨toNat_of_isNameChar hname, (nameChar_facts hname).2.2.1⟩

end EndpointPath

/-! ## below the root -/

/-- an address that differs from the root by its path only, and that goes on behind the path of the
root, with one slash in between -/
structure Below (root : Url) (path : List Char) (u : Url) : Prop where
  scheme : u.scheme = root.scheme
  user : u.user = root.user
  password : u.password = root.password
  host : u.host = root.host
  port : u.port = root.port
  path : u.pathChars = ApiRoot.withoutSlashes root.pathChars ++ '/' :: path.dropWhile (· = '/')

/-- addresses that differ by the slashes at the end of their paths only -/
def Alike (a b : Url) : Prop :=
  b = { a with path := b.path } ∧
    ApiRoot.withoutSlashes b.pathChars = ApiRoot.withoutSlashes a.pathChars

namespace ApiRoot

theorem proper_of_root {s : ApiSettings} {root : ApiRoot} (h : s.root = .ok root) :
    root.url.Proper := by
  rw [ApiSettings.root, read] at h
  split at h
  · cases h
  · cases h
  · next hread =>
    cases h
    exact Url.proper_of_read hread

theorem endpoint_eq_of_alike {a b : ApiRoot} (h : a.url.Proper) (hbare : a.url.Bare)
    (hab : Alike a.url b.url) {p q : String}
    (hpq : q.toList.dropWhile (· = '/') = p.toList.dropWhile (· = '/')) :
    b.endpoint q = a.endpoint p := by
  obtain ⟨v⟩ := b
  obtain ⟨heq, hpath⟩ := hab
  dsimp only at heq hpath
  have hfront : v.front = a.url.front := by
    rw [heq]
    rfl
  have hv : v.Bare := by
    rw [heq]
    exact hbare
  have hlast := Url.getLast?_front h
  rw [endpoint, endpoint, hpq, Url.withoutSlashes_chars hlast hbare,
    Url.withoutSlashes_chars (hfront ▸ hlast) hv, hfront, hpath]

section
variable {u : Url} {path : List Char} {names : List (List Char)}

theorem below_extend (h : u.Proper) (hbare : u.Bare) (path : List Char) :
    Below u path (u.extend (path.dropWhile (· = '/'))) := by
  have hpath := Url.pathChars_extend h hbare (path.dropWhile (· = '/'))
  rw [Url.extend_of_bare hbare] at hpath ⊢
  exact ⟨rfl, rfl, rfl, rfl, rfl, hpath⟩

theorem pathChars_extend_of_not_bare (h : ¬u.Bare) (rest : List Char) :
    (u.extend rest).pathChars = u.pathChars := by
  rw [Url.extend]
  split
  · next hquery hfragment => exact absurd ⟨hquery, hfragment⟩ h
  · rfl
  · rfl

/-- the path of the root does not lie below itself -/
theorem not_below_of_pathChars (hpath : EndpointPath path names) (hne : names ≠ []) {v : Url}
    (hv : v.pathChars = u.pathChars) : ¬Below u path v := by
  intro hbelow
  obtain ⟨n, names, rfl⟩ := List.exists_cons_of_ne_nil hne
  obtain ⟨hn, hchars⟩ := hpath.name n List.mem_cons_self
  obtain ⟨c, cs, rfl⟩ := List.exists_cons_of_ne_nil hn
  obtain ⟨k, hk⟩ := exists_eq_withoutSlashes_append u.pathChars
  have hslashes : List.replicate k '/' = '/' :: c :: List.intercalate ['/'] (cs :: names) := by
    have := hbelow.path
    rw [hv, hpath.dropWhile_eq, List.intercalate_cons_cons_left] at this
    exact List.append_cancel_left (hk.symm.trans this)
  have hc : c ∈ List.replicate k '/' := by
    rw [hslashes]
    exact List.mem_cons_of_mem _ List.mem_cons_self
  have hname := List.all_eq_true.mp hchars c List.mem_cons_self
  exact (nameChar_facts hname).2.2.2.1 (List.eq_of_mem_replicate hc)

end

/-- endpoints lie below a root with nothing behind its path, whatever slashes it and the path bring;
behind a query or a fragment, none does -/
theorem endpoints_below {s : ApiSettings} {root : ApiRoot} (h : s.root = .ok root) {path : String}
    {names : List (List Char)} (hpath : EndpointPath path.toList names) :
    ∃ u, Url.read (root.endpoint path) = .ok (.web u) ∧
      (root.url.Bare → Below root.url path.toList u ∧
        ∀ (root' : ApiRoot) (path' : String), Alike root.url root'.url →
          path'.toList.dropWhile (· = '/') = path.toList.dropWhile (· = '/') →
          root'.endpoint path' = root.endpoint path) ∧
      (¬root.url.Bare → u.pathChars = root.url.pathChars ∧
        (names ≠ [] → ¬Below root.url path.toList u)) := by
  have hproper := proper_of_root h
  have hextension : Url.Extension (path.toList.dropWhile (· = '/')) := by
    rw [hpath.dropWhile_eq]
    exact hpath.extension
  refine ⟨_, Url.read_endpoint hproper hextension, fun hbare => ⟨?_, ?_⟩, fun hbare => ⟨?_, ?_⟩⟩
  · exact below_extend hproper hbare path.toList
  · exact fun _ _ halike hslashes => endpoint_eq_of_alike hproper hbare halike hslashes
  · exact pathChars_extend_of_not_bare hbare _
  · exact fun hne => not_below_of_pathChars hpath hne (pathChars_extend_of_not_bare hbare _)

theorem endpoints_below_slash :
    ∃ root u, ({ ApiSettings.usual with baseUrl := "http://127.0.0.1:8989/v1/" }).root = .ok root ∧
      Url.read (root.endpoint "/sql/abc/queries") = .ok (.web u) ∧
      Below root.url "/sql/abc/queries".toList u := by
  have hroot : ({ ApiSettings.usual with baseUrl := "http://127.0.0.1:8989/v1/" }).root =
      .ok ⟨⟨.http, [], [], .ipv4 0x7F000001, some 8989, [['v', '1'], []], none, none⟩⟩ := rfl
  have hpath : EndpointPath "/sql/abc/queries".toList
      ["sql".toList, "abc".toList, "queries".toList] := ⟨⟨1, by decide⟩, by decide⟩
  obtain ⟨u, hread, hbelow, -⟩ := endpoints_below hroot hpath
  exact ⟨_, u, hroot, hread, (hbelow ⟨rfl, rfl⟩).1⟩

/-- a root with a fragment: the endpoint goes on behind the fragment -/
theorem endpoint_behind_fragment :
    ∃ root u, ({ ApiSettings.usual with baseUrl := "http://h/v1#top" }).root = .ok root ∧
      EndpointPath "sql".toList ["sql".toList] ∧
      root.endpoint "sql" = "http://h/v1#top/sql" ∧
      Url.read (root.endpoint "sql") = .ok (.web u) ∧ ¬Below root.url "sql".toList u := by
  refine ⟨⟨⟨.http, [], [], .domain ['h'], none, [['v', '1']], none, some ['t', 'o', 'p']⟩⟩,
    ⟨.http, [], [], .domain ['h'], none, [['v', '1']], none, some "top/sql".toList⟩, rfl,
    ⟨⟨0, rfl⟩, by decide⟩, rfl, rfl, fun hbelow => ?_⟩
  exact absurd hbelow.path (by decide)

end ApiRoot

end QueryDesk
