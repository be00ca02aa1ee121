import QueryDesk.Log.Basic
import QueryDesk.Proofs.LogWindow
import QueryDesk.Proofs.RereadValue
import QueryDesk.Proofs.Timestamp

/-!
# The file of a log

* `Json.Reading.Undoes`   what was written is read when there is room for its brackets, as `again`
  says;
* `Undoes.list`, `Undoes.record`   arrays and records of such parts;
* `undoes_reading`        for results, for entries;
* `QueryLog.load_file`    a saved log is loaded, but for a result that goes too deep.
-/

namespace QueryDesk

open Json Json.Reading

/-! ## readings that undo writings -/

namespace Json.Reading

variable {α β : Type}

/-- what was written is read, as `again`, exactly when there is room for its brackets -/
def Undoes (r : Reading α) (write : β → Json) (again : β → α) : Prop :=
  ∀ room b, r room (write b).source = if (write b).nesting ≤ room then some (again b) else none

theorem Undoes.parse_write {r : Reading α} {w : β → Json} {again : β → α} (h : Undoes r w again)
    (layout : Layout) (b : β) : parse r (String.ofList (write layout (w b))) =
      if (w b).nesting ≤ depth then some (again b) else none := by
  rw [parse, Source.read_write, Option.bind_some]
  exact h depth b

theorem undoes_value : Undoes value id rereading := fun room j => value_source j room

theorem string_source (room : Nat) (s : String) : string room (Json.string s).source = some s := by
  rw [source, string, Piece.text?_map_char]

theorem ite_bind {c : Prop} [Decidable c] (a : α) (f : α → Option β) :
    (if c then some a else none).bind f = if c then f a else none := by
  split <;> rfl

theorem mapM_eq_ite {f : β → Option α} {p : β → Prop} [DecidablePred p] {g : β → α}
    (h : ∀ b, f b = if p b then some (g b) else none) (bs : List β) :
    bs.mapM f = if ∀ b ∈ bs, p b then some (bs.map g) else none := by
  induction bs with
  | nil => rw [List.mapM_nil, if_pos nofun]; rfl
  | cons b bs ih =>
    rw [List.mapM_cons, ih, h b]
    by_cases hb : p b
    · by_cases hbs : ∀ b ∈ bs, p b
      · rw [if_pos hb, if_pos hbs, if_pos (List.forall_mem_cons.mpr ⟨hb, hbs⟩)]
        rfl
      · rw [if_pos hb, if_neg hbs, if_neg fun hall => hbs (List.forall_mem_cons.mp hall).2]
        rfl
    · rw [if_neg hb, if_neg fun hall => hb (List.forall_mem_cons.mp hall).1]
      rfl

theorem Undoes.list {r : Reading α} {write : β → Json} {again : β → α} (h : Undoes r write again) :
    Undoes (Reading.list r) (fun bs : List β => array (bs.map write)) (List.map again) := by
  intro room bs
  cases room with
  | zero =>
    rw [if_neg (by rw [nesting]; omega)]
    rfl
  | succ room =>
    have hnesting : (array (bs.map write)).nesting ≤ room + 1 ↔
        ∀ b ∈ bs, (write b).nesting ≤ room := by
      rw [nesting_array_le_iff, List.forall_mem_map]
    rw [source, sources_eq, Reading.list, List.map_map, List.mapM_map]
    refine (mapM_eq_ite (h room) bs).trans ?_
    simp only [hnesting]

/-! ## records -/

/-- the fields of a written record -/
def fieldsOf (members : List (String × Json)) : Fields := members.map fun m => (m.1, m.2.source)

section
variable {names : List String} {members : List (String × Json)}

theorem fields?_source (hnames : ∀ m ∈ members, m.1 ∈ names)
    (hnodup : (members.map (·.1)).Nodup) :
    fields? names (object members).source = some (fieldsOf members) := by
  have htexts : (memberSources members).mapM (fun m => (Piece.text? m.1).map (·, m.2)) =
      some (fieldsOf members) := by
    rw [memberSources_eq, List.mapM_map, mapM_eq_ite (p := fun _ => True)
      (g := fun m : String × Json => (m.1, m.2.source))]
    · exact if_pos fun _ _ => trivial
    · intro m
      rw [Function.comp_apply, Piece.text?_map_char, if_pos trivial, Option.map_some]
  have hknown : (fieldsOf members).filter (·.1 ∈ names) = fieldsOf members := by
    refine List.filter_eq_self.mpr fun m hm => decide_eq_true ?_
    obtain ⟨m', hm', rfl⟩ := List.mem_map.mp hm
    exact hnames m' hm'
  have hkeys : (fieldsOf members).map (·.1) = members.map (·.1) := List.map_map
  rw [source, fields?, htexts]
  show (if (((fieldsOf members).filter (·.1 ∈ names)).map (·.1)).Nodup then
    some ((fieldsOf members).filter (·.1 ∈ names)) else none) = _
  rw [hknown, hkeys, if_pos hnodup]

variable {name : String} {room : Nat}

theorem lookup_fieldsOf : (fieldsOf members).lookup name = (members.lookup name).map source := by
  induction members with
  | nil => rfl
  | cons m members ih =>
    show List.lookup name ((m.1, m.2.source) :: fieldsOf members) = _
    rw [List.lookup_cons, List.lookup_cons, ih]
    split <;> rfl

theorem required_fieldsOf {r : Reading α} {j : Json} (h : members.lookup name = some j) :
    required r name room (fieldsOf members) = r room j.source := by
  rw [required, lookup_fieldsOf, h]
  rfl

theorem defaulted_fieldsOf {r : Reading α} {default : α} {j : Json}
    (h : members.lookup name = some j) :
    defaulted default r name room (fieldsOf members) = r room j.source := by
  rw [defaulted, lookup_fieldsOf, h]
  rfl

/-- a member that is left out when it is absent -/
theorem defaulted_ifPresent {x : Option String} (h : members.lookup name = x.map Json.string) :
    defaulted none (optional string) name room (fieldsOf members) = some x := by
  cases x with
  | none =>
    rw [defaulted, lookup_fieldsOf, h]
    rfl
  | some s =>
    rw [defaulted_fieldsOf h]
    exact congrArg (Option.map some) (string_source room s)

end

theorem Undoes.record {names : List String} {build : Nat → Fields → Option α}
    {members : β → List (String × Json)} {again : β → α}
    (hnames : ∀ b, ∀ m ∈ members b, m.1 ∈ names) (hnodup : ∀ b, ((members b).map (·.1)).Nodup)
    (hbuild : ∀ room b, build room (fieldsOf (members b)) =
      if ∀ m ∈ members b, m.2.nesting ≤ room then some (again b) else none) :
    Undoes (Reading.record names build) (fun b => object (members b)) again := by
  intro room b
  cases room with
  | zero =>
    rw [if_neg (by rw [nesting]; omega)]
    rfl
  | succ room =>
    rw [Reading.record, fields?_source (hnames b) (hnodup b), Option.bind_some, hbuild]
    simp only [nesting_object_le_iff]

theorem Undoes.enveloped {r : Reading α} {write : β → Json} {again : β → α}
    (h : Undoes r write again) :
    Undoes (Json.Reading.enveloped r) (fun b => object [("data", write b)]) again := by
  refine .record (fun b => by simp) (fun b => by simp) fun room b => ?_
  rw [required_fieldsOf rfl, h room b]
  simp only [List.forall_mem_singleton]

theorem tagged_source {build : Nat → String → Source → Option α} (key : String) (j : Json)
    (room : Nat) : tagged build (room + 1) (object [(key, j)]).source = build room key j.source := by
  rw [source, memberSources, memberSources, tagged, Piece.text?_map_char]
  rfl

theorem undoes_values : Undoes (Reading.list value) array (List.map rereading) := by
  have h : Undoes (Reading.list value) (fun items => array (items.map id)) (List.map rereading) :=
    undoes_value.list
  simpa only [List.map_id] using h

end Json.Reading

/-! ## results -/

namespace ResultSet

/-- the result with its values written and read -/
def rereading (set : ResultSet) : ResultSet :=
  { set with results := set.results.map Json.rereading }

theorem undoes_attributes : Undoes attributes
    (fun a : String × List Json => .object [("sql", .string a.1), ("results", .array a.2)])
    (fun a => (a.1, a.2.map Json.rereading)) := by
  refine Undoes.record (fun a => by simp) (fun a => by simp) fun room a => ?_
  have hfits : (∀ m ∈ [("sql", Json.string a.1), ("results", Json.array a.2)],
      m.2.nesting ≤ room) ↔ (Json.array a.2).nesting ≤ room := by
    simp [nesting]
  rw [defaulted_fieldsOf rfl, string_source, defaulted_fieldsOf rfl, undoes_values room a.2]
  simp only [hfits, Option.bind_eq_bind, Option.bind_some, ite_bind]
  rfl

/-- the members of a written result -/
def members (set : ResultSet) : List (String × Json) :=
  ifPresent "id" set.id ++ ifPresent "type" set.kind ++
    [("attributes", .object [("sql", .string set.sql), ("results", .array set.results)])]

theorem lookup_members (set : ResultSet) :
    set.members.lookup "id" = set.id.map Json.string ∧
      set.members.lookup "type" = set.kind.map Json.string ∧
      set.members.lookup "attributes" =
        some (.object [("sql", .string set.sql), ("results", .array set.results)]) := by
  obtain ⟨id, kind, sql, results⟩ := set
  cases id <;> cases kind <;> exact ⟨rfl, rfl, rfl⟩

theorem members_fit_iff {set : ResultSet} {n : Nat} : (∀ m ∈ set.members, m.2.nesting ≤ n) ↔
    (Json.object [("sql", .string set.sql), ("results", .array set.results)]).nesting ≤ n := by
  obtain ⟨id, kind, sql, results⟩ := set
  cases id <;> cases kind <;> simp [members, ifPresent, nesting]

theorem undoes_reading : Undoes reading toJson rereading := by
  show Undoes _ (fun set => Json.object (members set)) rereading
  refine Undoes.record ?_ ?_ ?_
  · rintro ⟨id, kind, sql, results⟩
    cases id <;> cases kind <;> simp [members, ifPresent]
  · rintro ⟨id, kind, sql, results⟩
    cases id <;> cases kind <;> simp [members, ifPresent]
  · intro room set
    obtain ⟨hid, hkind, hattributes⟩ := lookup_members set
    rw [defaulted_ifPresent hid, defaulted_ifPresent hkind, defaulted_fieldsOf hattributes,
      undoes_attributes room (set.sql, set.results)]
    simp only [members_fit_iff, Option.bind_eq_bind, Option.bind_some, ite_bind]
    rfl

/-- a result takes three brackets around its values -/
theorem nesting_toJson_le_iff {set : ResultSet} {n : Nat} :
    set.toJson.nesting ≤ n + 3 ↔ ∀ v ∈ set.results, v.nesting ≤ n := by
  show (Json.object (members set)).nesting ≤ n + 2 + 1 ↔ _
  rw [nesting_object_le_iff, members_fit_iff, nesting_object_le_iff, List.forall_mem_cons,
    List.forall_mem_singleton, nesting_array_le_iff]
  exact and_iff_right (Nat.zero_le _)

end ResultSet

/-! ## entries -/

namespace LogEntry

namespace Result

/-- the values that came from the server -/
def values : Result → List Json
  | data set => set.results
  | error _ => []

def rereading : Result → Result
  | data set => data set.rereading
  | error text => error text

theorem undoes_reading : Undoes Result.reading toJson rereading := by
  intro room r
  cases room with
  | zero =>
    cases r <;> exact (if_neg (by simp [toJson, nesting])).symm
  | succ room =>
    cases r with
    | data set =>
      have hfits : (toJson (data set)).nesting ≤ room + 1 ↔ set.toJson.nesting ≤ room := by
        rw [toJson, nesting_object_le_iff, List.forall_mem_singleton]
      have hread : Result.reading (room + 1) (toJson (data set)).source =
          (ResultSet.reading room set.toJson.source).map data := by
        rw [toJson, Result.reading, tagged_source, if_pos rfl]
      rw [hread, ResultSet.undoes_reading room set]
      simp only [hfits]
      split <;> rfl
    | error text =>
      have hfits : (toJson (error text)).nesting ≤ room + 1 := by
        simp [toJson, nesting, memberNestings]
      rw [if_pos hfits, toJson, Result.reading, tagged_source, if_neg (by decide), if_pos rfl,
        string_source]
      rfl

end Result

def values (e : LogEntry) : List Json := e.result.values

/-- the entry with its values written and read -/
def rereading (e : LogEntry) : LogEntry := { e with result := e.result.rereading }

/-- the members of a written entry -/
def members (e : LogEntry) : List (String × Json) :=
  [("start_time", .string e.start.text)] ++ ResultSet.ifPresent "name" e.name ++
    [("sql", .string e.sql), ("result", e.result.toJson), ("connection_name", .string e.connection),
      ("log_type", .string e.origin.text)]

theorem members_fit_iff {e : LogEntry} {n : Nat} :
    (∀ m ∈ members e, m.2.nesting ≤ n) ↔ e.result.toJson.nesting ≤ n := by
  obtain ⟨start, name, sql, result, connection, origin⟩ := e
  cases name <;> simp [members, ResultSet.ifPresent, nesting]

theorem Origin.reading_source (o : Origin) (room : Nat) :
    Origin.reading room (Json.string o.text).source = some o := by
  show (string room (Json.string o.text).source).bind ofText? = _
  rw [string_source, Option.bind_some, ofText?_text]

theorem lookup_members (e : LogEntry) :
    e.members.lookup "start_time" = some (.string e.start.text) ∧
      e.members.lookup "name" = e.name.map Json.string ∧
      e.members.lookup "sql" = some (.string e.sql) ∧
      e.members.lookup "result" = some e.result.toJson ∧
      e.members.lookup "connection_name" = some (.string e.connection) ∧
      e.members.lookup "log_type" = some (.string e.origin.text) := by
  obtain ⟨start, name, sql, result, connection, origin⟩ := e
  cases name <;> exact ⟨rfl, rfl, rfl, rfl, rfl, rfl⟩

theorem undoes_reading : Undoes reading toJson rereading := by
  show Undoes _ (fun e => Json.object (members e)) rereading
  refine Undoes.record ?_ ?_ ?_
  · rintro ⟨start, name, sql, result, connection, origin⟩
    cases name <;> simp [members, ResultSet.ifPresent]
  · rintro ⟨start, name, sql, result, connection, origin⟩
    cases name <;> simp [members, ResultSet.ifPresent]
  · intro room e
    obtain ⟨hstart, hname, hsql, hresult, hconnection, horigin⟩ := lookup_members e
    rw [required_fieldsOf hstart, string_source, defaulted_ifPresent hname,
      required_fieldsOf hsql, string_source, required_fieldsOf hresult,
      Result.undoes_reading room e.result, required_fieldsOf hconnection, string_source,
      required_fieldsOf horigin, Origin.reading_source]
    simp only [members_fit_iff, Option.bind_eq_bind, Option.bind_some, Instant.ofText?_text,
      ite_bind]
    rfl

/-- an entry takes five brackets around the values of its result -/
theorem nesting_toJson_le_iff {e : LogEntry} {n : Nat} :
    e.toJson.nesting ≤ n + 5 ↔ ∀ v ∈ e.values, v.nesting ≤ n := by
  show (Json.object (members e)).nesting ≤ n + 4 + 1 ↔ ∀ v ∈ e.result.values, _
  rw [nesting_object_le_iff, members_fit_iff]
  cases e.result with
  | data set =>
    show (Json.object [("data", set.toJson)]).nesting ≤ n + 3 + 1 ↔ ∀ v ∈ set.results, _
    rw [nesting_object_le_iff, List.forall_mem_singleton, ResultSet.nesting_toJson_le_iff]
  | error text => simp [Result.toJson, Result.values, nesting, memberNestings]

end LogEntry

/-! ## files -/

namespace QueryLog

/-- the saved value -/
def document (log : QueryLog) : Json := .array (log.entries.map LogEntry.toJson)

theorem nesting_document_le_iff {log : QueryLog} {n : Nat} :
    log.document.nesting ≤ n + 6 ↔ ∀ e ∈ log.entries, ∀ v ∈ e.values, v.nesting ≤ n := by
  rw [document, nesting_array_le_iff, List.forall_mem_map]
  simp only [LogEntry.nesting_toJson_le_iff]

theorem parse_file (log : QueryLog) : parse (Reading.list LogEntry.reading) log.file =
    if log.document.nesting ≤ depth then some (log.entries.map LogEntry.rereading) else none :=
  LogEntry.undoes_reading.list.parse_write (some 0) log.entries

theorem fromUTF8?_toUTF8 (s : String) : String.fromUTF8? s.toUTF8 = some s := by
  exact dif_pos s.isValidUTF8

/-- why a file is not loaded -/
def corrupt : ConsoleError := .internal "Corrupt query log: it is no list of entries"

/-- what is loaded from a saved log -/
theorem load_file (capacity : Nat) (log : QueryLog) : load capacity (some log.file.toUTF8) =
    if log.document.nesting ≤ depth then
      .ok ((log.entries.map LogEntry.rereading).foldl push (empty capacity))
    else .error corrupt := by
  simp only [load, fromUTF8?_toUTF8, parse_file, corrupt]
  by_cases h : log.document.nesting ≤ depth
  · rw [if_pos h, if_pos h]
  · rw [if_neg h, if_neg h]

end QueryLog

end QueryDesk
