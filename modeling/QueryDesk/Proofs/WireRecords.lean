import QueryDesk.Api.Connection
import QueryDesk.Proofs.SavedLog

/-!
# Records on the wire

* `Json.Keyed`, `ReadsBack`   no object has two members of one key, doubles are printed with digits
  that are read as they were;
* `keyed_of_value`            what is read is keyed, however it was spelt;
* `Survives`                  a record that was accepted, and any record that fits into a text, is
  written and read again as it was;
* `InEnvelope`                so it is with an envelope around the record and without;
* `undoes_reading`            for connections, parameters and requests.

**`Json.Reading.records_survive`**: so it is for the results and connections that come in envelopes,
and requests and parameters are always read as they were.
-/

namespace QueryDesk

open Json Json.Reading

/-! ## keys and doubles -/

namespace Json

/-- no object in it has two members of one key -/
def Keyed (j : Json) : Prop := ∀ members, Part (object members) j → (members.map (·.1)).Nodup

/-- every double in it is printed with digits that are read as that double -/
def ReadsBack (j : Json) : Prop := ∀ x : Binary64, Part (number (.real x)) j →
  parse? (String.ofList x.text) = some (number (.real x))

theorem keyed_array {items : List Json} (h : ∀ j ∈ items, Keyed j) : Keyed (array items) := by
  intro members hpart
  cases hpart with
  | item mem inner => exact h _ mem members inner

theorem keyed_object {members : List (String × Json)} (hkeys : (members.map (·.1)).Nodup)
    (h : ∀ m ∈ members, Keyed m.2) : Keyed (object members) := by
  intro inner hpart
  cases hpart with
  | self => exact hkeys
  | member mem hin => exact h _ mem inner hin

/-- a value without brackets -/
theorem keyed_of_flat {j : Json} (h : j.nesting = 0) : Keyed j := by
  intro members hpart
  cases hpart with
  | self => rw [nesting] at h; omega
  | item => rw [nesting] at h; omega
  | member => rw [nesting] at h; omega

theorem nodup_put {key : String} {j : Json} {ms : List (String × Json)}
    (h : (ms.map (·.1)).Nodup) : ((put key j ms).map (·.1)).Nodup := by
  rw [map_fst_put]
  split
  · exact h
  · next hnew =>
    refine List.nodup_append.mpr ⟨h, by simp, fun x hx y hy he => hnew ?_⟩
    rw [← List.mem_singleton.mp hy, ← he]
    exact hx

theorem keyed_ofMembers {members : List (String × Json)} (h : ∀ m ∈ members, Keyed m.2) :
    Keyed (ofMembers members) := by
  have hnodup : ∀ acc : List (String × Json), (acc.map (·.1)).Nodup →
      ((members.foldl (fun ms m => put m.1 m.2 ms) acc).map (·.1)).Nodup := by
    clear h
    induction members with
    | nil => exact fun _ hacc => hacc
    | cons m members ih => exact fun acc hacc => ih (put m.1 m.2 acc) (nodup_put hacc)
  refine keyed_object (hnodup [] List.nodup_nil) fun m hm => ?_
  exact h m ((mem_foldl_put hm).resolve_left List.not_mem_nil)

namespace Reading

mutual

/-- of members with one key only one is kept -/
theorem keyed_of_value (s : Source) {room : Nat} {j : Json} (h : value room s = some j) :
    Keyed j := by
  match s with
  | .null | .bool _ =>
    rw [value] at h
    cases h
    exact keyed_of_flat (by rw [nesting])
  | .number _ | .string _ =>
    rw [value] at h
    obtain ⟨_, -, rfl⟩ := Option.map_eq_some_iff.mp h
    exact keyed_of_flat (by rw [nesting])
  | .array items =>
    cases room with
    | zero =>
      rw [value] at h
      cases h
    | succ room =>
      rw [value] at h
      obtain ⟨js, hjs, rfl⟩ := Option.map_eq_some_iff.mp h
      exact keyed_array (keyed_of_values items hjs)
  | .object members =>
    cases room with
    | zero =>
      rw [value] at h
      cases h
    | succ room =>
      rw [value] at h
      obtain ⟨ms, hms, rfl⟩ := Option.map_eq_some_iff.mp h
      exact keyed_ofMembers (keyed_of_members? members hms)

theorem keyed_of_values (items : List Source) {room : Nat} {js : List Json}
    (h : values room items = some js) : ∀ j ∈ js, Keyed j := by
  match items with
  | [] =>
    rw [values] at h
    cases h
    exact nofun
  | s :: rest =>
    rw [values] at h
    obtain ⟨j, hj, h⟩ := Option.bind_eq_some_iff.mp h
    obtain ⟨js', hjs, h⟩ := Option.bind_eq_some_iff.mp h
    cases h
    exact List.forall_mem_cons.mpr ⟨keyed_of_value s hj, keyed_of_values rest hjs⟩

theorem keyed_of_members? (members : List (List Piece × Source)) {room : Nat}
    {ms : List (String × Json)} (h : members? room members = some ms) : ∀ m ∈ ms, Keyed m.2 := by
  match members with
  | [] =>
    rw [members?] at h
    cases h
    exact nofun
  | (key, s) :: rest =>
    rw [members?] at h
    obtain ⟨k, -, h⟩ := Option.bind_eq_some_iff.mp h
    obtain ⟨j, hj, h⟩ := Option.bind_eq_some_iff.mp h
    obtain ⟨ms', hms, h⟩ := Option.bind_eq_some_iff.mp h
    cases h
    exact List.forall_mem_cons.mpr ⟨keyed_of_value s hj, keyed_of_members? rest hms⟩

end

theorem values_eq_mapM (room : Nat) (items : List Source) :
    values room items = items.mapM (value room) := by
  induction items with
  | nil => rw [values, List.mapM_nil, pure]; rfl
  | cons s items ih => rw [values, ih, List.mapM_cons]

theorem keyed_of_list {room : Nat} {s : Source} {js : List Json}
    (h : list value room s = some js) : ∀ j ∈ js, Keyed j := by
  cases room with
  | zero => cases h
  | succ room =>
    cases s with
    | array items =>
      apply keyed_of_values items
      rw [values_eq_mapM]
      exact h
    | _ => cases h

theorem eq_or_exists_of_defaulted {α : Type} {default a : α} {r : Reading α} {name : String}
    {room : Nat} {fields : Fields} (h : defaulted default r name room fields = some a) :
    a = default ∨ ∃ s, r room s = some a := by
  unfold defaulted at h
  split at h
  · exact .inl (Option.some.inj h).symm
  · next s _ => exact .inr ⟨s, h⟩

end Reading

end Json

/-! ## written and read again -/

namespace Json.Reading

variable {α : Type}

/-- what was accepted is written and read again as the same, and so is everything that goes no
deeper than a text may -/
structure Survives (accepts again : Reading α) (written : α → Json) : Prop where
  accepted : ∀ text a, parse accepts text = some a → (written a).ReadsBack → ∀ layout,
    ∃ b, parse again (String.ofList (write layout (written a))) = some b ∧ b = a ∧
      write layout (written b) = write layout (written a)
  recovered : ∀ a, (written a).Keyed → (written a).ReadsBack → (written a).nesting ≤ depth →
    ∀ layout, parse again (String.ofList (write layout (written a))) = some a

theorem Undoes.survives {accepts again : Reading α} {written : α → Json} {rereading : α → α}
    (h : Undoes again written rereading) (hsame : ∀ a, (written a).Lasting → rereading a = a)
    (hread : ∀ text a, parse accepts text = some a →
      (written a).Keyed ∧ (written a).nesting ≤ depth) : Survives accepts again written := by
  have hagain : ∀ a, (written a).Keyed → (written a).ReadsBack → (written a).nesting ≤ depth →
      ∀ layout, parse again (String.ofList (write layout (written a))) = some a := by
    intro a hkeyed hback hfits layout
    rw [h.parse_write layout a, if_pos hfits, hsame a ⟨hkeyed, hback⟩]
  refine ⟨fun text a ha hback layout => ?_, hagain⟩
  obtain ⟨hkeyed, hfits⟩ := hread text a ha
  exact ⟨a, hagain a hkeyed hback hfits layout, rfl, rfl⟩

/-! ## numbers -/

theorem natBelow_source {bound n : Nat} (h : n < bound) (hn : n < 18446744073709551616)
    (room : Nat) : natBelow bound room (Json.nat n).source = some n := by
  rw [nat_of_lt hn, source, natBelow, number, Json.Number.number?_numeral_whole]
  show (if (0 : Int) ≤ n ∧ (n : Int) < bound then some (n : Int).toNat else none) = _
  rw [if_pos ⟨by omega, by omega⟩, Int.toNat_natCast]

theorem nat64_source (n : UInt64) (room : Nat) :
    nat64 room (Json.nat n.toNat).source = some n.toNat :=
  natBelow_source n.toNat_lt n.toNat_lt room

end Json.Reading

/-- the double that is read where this one was written -/
def Binary64.rereading (x : Binary64) : Binary64 :=
  ((Json.Number.real x).numeral.number?.getD (.real x)).toDouble

theorem Binary64.rereading_eq {x : Binary64} (h : (Json.number (.real x)).Lasting) :
    x.rereading = x := by
  have hsame := h.rereading_real
  rw [Json.rereading] at hsame
  injection hsame with hnumber
  rw [Binary64.rereading, hnumber]
  rfl

theorem Json.Reading.double_source (x : Binary64) (room : Nat) :
    double room (Json.number (.real x)).source = some x.rereading := by
  obtain ⟨m, hm⟩ := Option.isSome_iff_exists.mp (Json.Number.real x).number?_numeral_isSome
  rw [source, double, Json.Reading.number, hm, Option.map_some, Binary64.rereading, hm,
    Option.getD_some]

/-! ## results -/

namespace ResultSet

theorem rereading_of_lasting {set : ResultSet} (h : set.toJson.Lasting) : set.rereading = set := by
  have hattributes : (Json.object [("sql", .string set.sql),
      ("results", .array set.results)]).Lasting :=
    h.member (m := ("attributes", _)) (List.mem_append_right _ List.mem_cons_self)
  have hresults : (Json.array set.results).Lasting :=
    hattributes.member (m := ("results", _)) (List.mem_cons_of_mem _ List.mem_cons_self)
  have hsame : set.results.map Json.rereading = set.results := by
    rw [← rereadings_eq]
    exact Lasting.rereadings_eq set.results fun v hv => hresults.item hv
  rw [rereading, hsame]

/-- what the members of a result are read as -/
theorem keyed_attributes {room : Nat} {s : Source} {a : String × List Json}
    (h : attributes room s = some a) : ∀ v ∈ a.2, v.Keyed := by
  cases room with
  | zero => cases h
  | succ room =>
    obtain ⟨fields, -, h⟩ := Option.bind_eq_some_iff.mp h
    obtain ⟨sql, -, h⟩ := Option.bind_eq_some_iff.mp h
    obtain ⟨results, hresults, h⟩ := Option.bind_eq_some_iff.mp h
    cases h
    rcases eq_or_exists_of_defaulted hresults with rfl | ⟨s', hs⟩
    · exact nofun
    · exact keyed_of_list hs

theorem keyed_reading {room : Nat} {s : Source} {set : ResultSet}
    (h : reading room s = some set) : ∀ v ∈ set.results, v.Keyed := by
  cases room with
  | zero => cases h
  | succ room =>
    obtain ⟨fields, -, h⟩ := Option.bind_eq_some_iff.mp h
    obtain ⟨id, -, h⟩ := Option.bind_eq_some_iff.mp h
    obtain ⟨kind, -, h⟩ := Option.bind_eq_some_iff.mp h
    obtain ⟨⟨sql, results⟩, hattributes, h⟩ := Option.bind_eq_some_iff.mp h
    cases h
    rcases eq_or_exists_of_defaulted hattributes with heq | ⟨s', hs⟩
    · cases heq
      exact nofun
    · exact keyed_attributes hs

theorem keyed_toJson {set : ResultSet} (h : ∀ v ∈ set.results, v.Keyed) : set.toJson.Keyed := by
  have hattributes : (Json.object [("sql", .string set.sql),
      ("results", .array set.results)]).Keyed := by
    refine keyed_object (by simp) (List.forall_mem_cons.mpr ⟨keyed_of_flat (by rw [nesting]), ?_⟩)
    exact List.forall_mem_singleton.mpr (keyed_array h)
  have hstring : ∀ s : String, (Json.string s).Keyed := fun s => keyed_of_flat (by rw [nesting])
  obtain ⟨id, kind, sql, results⟩ := set
  cases id <;> cases kind <;>
    exact keyed_object (by simp [ifPresent]) (by simpa [ifPresent, hstring] using hattributes)

end ResultSet

/-! ## connections -/

namespace ConnectionInfo

def rereading (c : ConnectionInfo) : ConnectionInfo :=
  { c with secondsIdle := c.secondsIdle.map Binary64.rereading }

/-- the time that a connection has been idle, as it is written -/
def idleJson (idle : Option Binary64) : Json := (idle.map fun x => Json.number (.real x)).getD .null

theorem optional_double_source (idle : Option Binary64) (room : Nat) :
    optional double room (idleJson idle).source = some (idle.map Binary64.rereading) := by
  cases idle with
  | none => rfl
  | some x => exact congrArg (Option.map some) (double_source x room)

theorem nesting_idleJson (idle : Option Binary64) : (idleJson idle).nesting = 0 := by
  cases idle <;> rfl

theorem undoes_attributes : Undoes attributes
    (fun a : UInt64 × Option Binary64 => .object [("thread_id", .nat a.1.toNat),
      ("seconds_idle", idleJson a.2)])
    (fun a => (a.1, a.2.map Binary64.rereading)) := by
  refine Undoes.record (fun a => by simp) (fun a => by simp) fun room a => ?_
  have hfits : ∀ m ∈ [("thread_id", Json.nat a.1.toNat), ("seconds_idle", idleJson a.2)],
      m.2.nesting ≤ room := by
    simp [nesting_idleJson, nesting, Json.nat]
  rw [if_pos hfits, defaulted_fieldsOf rfl, defaulted_fieldsOf rfl, nat64_source,
    optional_double_source]
  simp

/-- the members of a written connection -/
def members (c : ConnectionInfo) : List (String × Json) :=
  [("id", .string c.id.text),
    ("attributes", .object [("thread_id", .nat c.thread.toNat),
      ("seconds_idle", idleJson c.secondsIdle)])]

theorem members_fit_iff {c : ConnectionInfo} {n : Nat} : (∀ m ∈ c.members, m.2.nesting ≤ n) ↔
    (Json.object [("thread_id", .nat c.thread.toNat),
      ("seconds_idle", idleJson c.secondsIdle)]).nesting ≤ n := by
  simp [members, nesting]

theorem undoes_reading : Undoes reading toJson rereading := by
  show Undoes _ (fun c => Json.object (members c)) rereading
  refine Undoes.record (fun c => by simp [members]) (fun c => by simp [members]) fun room c => ?_
  rw [required_fieldsOf rfl, string_source, defaulted_fieldsOf rfl,
    undoes_attributes room (c.thread, c.secondsIdle)]
  simp only [members_fit_iff, Option.bind_eq_bind, Option.bind_some, ite_bind]
  rfl

/-- a connection takes two brackets -/
theorem nesting_toJson (c : ConnectionInfo) : c.toJson.nesting = 2 := by
  show (Json.object c.members).nesting = 2
  simp [members, nesting, memberNestings, nesting_idleJson, Json.nat]

theorem rereading_of_lasting {c : ConnectionInfo} (h : c.toJson.Lasting) : c.rereading = c := by
  obtain ⟨id, thread, idle⟩ := c
  cases idle with
  | none => rfl
  | some x =>
    have hattributes : (Json.object [("thread_id", .nat thread.toNat),
        ("seconds_idle", .number (.real x))]).Lasting :=
      h.member (m := ("attributes", _)) (List.mem_cons_of_mem _ List.mem_cons_self)
    have hidle : (Json.number (.real x)).Lasting :=
      hattributes.member (m := ("seconds_idle", _)) (List.mem_cons_of_mem _ List.mem_cons_self)
    show ConnectionInfo.mk id thread (some x.rereading) = _
    rw [Binary64.rereading_eq hidle]

/-- the only double of a connection is the time that it has been idle -/
theorem readsBack_toJson {c : ConnectionInfo} (h : ∀ x, c.secondsIdle = some x →
    parse? (String.ofList x.text) = some (.number (.real x))) : c.toJson.ReadsBack := by
  intro x hpart
  obtain ⟨id, thread, idle⟩ := c
  change Part _ (Json.object (members _)) at hpart
  cases hpart with
  | member mem inner =>
    simp only [members, List.mem_cons, List.not_mem_nil, or_false] at mem
    obtain rfl | rfl := mem
    · cases inner
    · cases inner with
      | member mem inner =>
        simp only [List.mem_cons, List.not_mem_nil, or_false] at mem
        obtain rfl | rfl := mem
        · cases inner
        · cases idle with
          | none => cases inner
          | some y =>
            cases inner
            exact h x rfl

theorem keyed_toJson (c : ConnectionInfo) : c.toJson.Keyed := by
  have hattributes : (Json.object [("thread_id", .nat c.thread.toNat),
      ("seconds_idle", idleJson c.secondsIdle)]).Keyed := by
    refine keyed_object (by simp) (List.forall_mem_cons.mpr ⟨keyed_of_flat ?_, ?_⟩)
    · rw [Json.nat, nesting]
    · exact List.forall_mem_singleton.mpr (keyed_of_flat (nesting_idleJson c.secondsIdle))
  refine keyed_object (by simp) (List.forall_mem_cons.mpr ⟨keyed_of_flat (by rw [nesting]), ?_⟩)
  exact List.forall_mem_singleton.mpr hattributes

end ConnectionInfo

namespace ConnectionParams

def members (p : ConnectionParams) : List (String × Json) :=
  [("target", .string p.target), ("user", .string p.user), ("password", .string p.password)]
    ++ ResultSet.ifPresent "db" p.db ++ [("timeout", .nat p.timeout.toNat)]

theorem lookup_members (p : ConnectionParams) :
    p.members.lookup "target" = some (.string p.target) ∧
      p.members.lookup "user" = some (.string p.user) ∧
      p.members.lookup "password" = some (.string p.password) ∧
      p.members.lookup "db" = p.db.map Json.string ∧
      p.members.lookup "timeout" = some (.nat p.timeout.toNat) := by
  obtain ⟨target, user, password, db, timeout⟩ := p
  cases db <;> exact ⟨rfl, rfl, rfl, rfl, rfl⟩

theorem nesting_member (p : ConnectionParams) : ∀ m ∈ p.members, m.2.nesting = 0 := by
  obtain ⟨target, user, password, db, timeout⟩ := p
  cases db <;> simp [members, ResultSet.ifPresent, nesting, Json.nat]

theorem nodup_members (p : ConnectionParams) : (p.members.map (·.1)).Nodup := by
  obtain ⟨target, user, password, db, timeout⟩ := p
  cases db <;> simp [members, ResultSet.ifPresent]

theorem undoes_reading : Undoes reading toJson id := by
  show Undoes _ (fun p => Json.object (members p)) id
  refine Undoes.record ?_ nodup_members fun room p => ?_
  · rintro ⟨target, user, password, db, timeout⟩
    cases db <;> simp [members, ResultSet.ifPresent]
  · obtain ⟨htarget, huser, hpassword, hdb, htimeout⟩ := lookup_members p
    rw [if_pos fun m hm => (nesting_member p m hm).trans_le (Nat.zero_le room),
      required_fieldsOf htarget, string_source, required_fieldsOf huser,
      string_source, defaulted_fieldsOf hpassword, string_source, defaulted_ifPresent hdb,
      defaulted_fieldsOf htimeout, nat64_source]
    simp

end ConnectionParams

namespace QueryRequest

def members (r : QueryRequest) : List (String × Json) :=
  ("sql", .string r.sql) :: match r.maxRows with
    | none => []
    | some n => [("max_rows", .nat n.toNat)]

theorem nesting_member (r : QueryRequest) : ∀ m ∈ r.members, m.2.nesting = 0 := by
  obtain ⟨sql, maxRows⟩ := r
  cases maxRows <;> simp [members, nesting, Json.nat]

theorem nodup_members (r : QueryRequest) : (r.members.map (·.1)).Nodup := by
  obtain ⟨sql, maxRows⟩ := r
  cases maxRows <;> simp [members]

theorem undoes_reading : Undoes reading toJson id := by
  show Undoes _ (fun r => Json.object (members r)) id
  refine Undoes.record ?_ nodup_members fun room r => ?_
  · rintro ⟨sql, maxRows⟩
    cases maxRows <;> simp [members]
  · rw [if_pos fun m hm => (nesting_member r m hm).trans_le (Nat.zero_le room)]
    obtain ⟨sql, maxRows⟩ := r
    cases maxRows with
    | none =>
      rw [required_fieldsOf rfl, string_source]
      rfl
    | some n =>
      have hread : optional nat32 room (Json.nat n.toNat).source = some (some n.toNat) :=
        congrArg (Option.map some) (natBelow_source n.toNat_lt (by have := n.toNat_lt; omega) room)
      rw [required_fieldsOf rfl, string_source, defaulted_fieldsOf rfl, hread]
      simp

end QueryRequest

/-! ## all records -/

/-- the members of a record have no brackets -/
theorem Json.nesting_of_flat {members : List (String × Json)} (h : ∀ m ∈ members, m.2.nesting = 0) :
    (Json.object members).nesting ≤ 1 :=
  nesting_object_le_iff.mpr fun m hm => (h m hm).le

namespace Json.Reading

variable {α : Type}

/-- with the envelope and without -/
structure InEnvelope (r : Reading α) (written : α → Json) : Prop where
  data : Survives (enveloped r) r written
  envelope : Survives (enveloped r) (enveloped r) fun a => .object [("data", written a)]

/-- a record in an envelope has the room of a text but for one bracket -/
theorem exists_of_parse_enveloped {r : Reading α} {text : String} {a : α}
    (h : parse (enveloped r) text = some a) : ∃ s, r 126 s = some a := by
  obtain ⟨s, -, h⟩ := Option.bind_eq_some_iff.mp h
  obtain ⟨fields, -, h⟩ := Option.bind_eq_some_iff.mp h
  obtain ⟨s', -, h⟩ := Option.bind_eq_some_iff.mp h
  exact ⟨s', h⟩

theorem Undoes.inEnvelope {r : Reading α} {written : α → Json} {rereading : α → α}
    (h : Undoes r written rereading) (hsame : ∀ a, (written a).Lasting → rereading a = a)
    (hread : ∀ s a, r 126 s = some a → (written a).Keyed ∧ (written a).nesting ≤ 126) :
    InEnvelope r written where
  data := by
    refine h.survives hsame fun text a ha => ?_
    obtain ⟨s, hs⟩ := exists_of_parse_enveloped ha
    obtain ⟨hkeyed, hfits⟩ := hread s a hs
    exact ⟨hkeyed, hfits.trans (by decide)⟩
  envelope := by
    refine h.enveloped.survives (fun a ha => hsame a (ha.member List.mem_cons_self))
      fun text a ha => ?_
    obtain ⟨s, hs⟩ := exists_of_parse_enveloped ha
    obtain ⟨hkeyed, hfits⟩ := hread s a hs
    exact ⟨keyed_object (by simp) (List.forall_mem_singleton.mpr hkeyed),
      nesting_object_le_iff.mpr (List.forall_mem_singleton.mpr hfits)⟩

end Json.Reading

theorem ResultSet.inEnvelope : InEnvelope reading toJson := by
  refine undoes_reading.inEnvelope (fun set => rereading_of_lasting) fun s set hs => ?_
  refine ⟨keyed_toJson (keyed_reading hs), nesting_toJson_le_iff.mpr fun v hv => ?_⟩
  have := within_reading 126 s set hs v hv
  omega

theorem ConnectionInfo.inEnvelope : InEnvelope reading toJson := by
  refine undoes_reading.inEnvelope (fun c => rereading_of_lasting) fun s c _ => ?_
  exact ⟨keyed_toJson c, by rw [nesting_toJson]; decide⟩

/-- a request holds no double and no other record, and goes one bracket deep -/
theorem QueryRequest.parse_write (r : QueryRequest) (layout : Layout) :
    parse reading (String.ofList (write layout r.toJson)) = some r := by
  rw [undoes_reading.parse_write layout r, if_pos]
  · rfl
  · exact (nesting_of_flat r.nesting_member).trans (by decide)

theorem ConnectionParams.parse_write (p : ConnectionParams) (layout : Layout) :
    parse reading (String.ofList (write layout p.toJson)) = some p := by
  rw [undoes_reading.parse_write layout p, if_pos]
  · rfl
  · exact (nesting_of_flat p.nesting_member).trans (by decide)

namespace Json.Reading

/-- **The records of the wire outlive being written and read**; requests and parameters, which hold
no doubles, always do. -/
theorem records_survive :
    InEnvelope ResultSet.reading ResultSet.toJson ∧
      InEnvelope ConnectionInfo.reading ConnectionInfo.toJson ∧
      (∀ (r : QueryRequest) (layout : Layout),
        parse QueryRequest.reading (String.ofList (write layout r.toJson)) = some r) ∧
      ∀ (p : ConnectionParams) (layout : Layout),
        parse ConnectionParams.reading (String.ofList (write layout p.toJson)) = some p :=
  ⟨ResultSet.inEnvelope, ConnectionInfo.inEnvelope, QueryRequest.parse_write,
    ConnectionParams.parse_write⟩

/-- a connection that has been idle for half a second; its attributes came as an array -/
theorem records_survive_idle :
    let idle : ConnectionInfo :=
      ⟨⟨"conn-1"⟩, 7, some ⟨false, 4602678819172646912, by decide⟩⟩
    let text := "\x7b\"data\":\x7b\"attributes\":[7,0.5],\"links\":[],\"id\":\"conn-1\"\x7d\x7d"
    parse (enveloped ConnectionInfo.reading) text = some idle ∧
      ∃ b, parse ConnectionInfo.reading (String.ofList (write none idle.toJson)) = some b ∧
        b = idle ∧ write none b.toJson = write none idle.toJson := by
  intro idle text
  have hread : parse (enveloped ConnectionInfo.reading) text = some idle := by decide +kernel
  refine ⟨hread, records_survive.2.1.data.accepted text idle hread ?_ none⟩
  refine ConnectionInfo.readsBack_toJson fun x hx => ?_
  cases hx
  exact parse?_text (by decide +kernel)

end Json.Reading

end QueryDesk
