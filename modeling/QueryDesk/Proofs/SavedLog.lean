import QueryDesk.Proofs.LogFile

/-!
# Saved logs

* `Json.Reading.Within`   the values in what was read leave some brackets of the room unused;
* `LogEntry.Parsed`       an entry that was read from a text, or whose result came in a response;
* `LogEntry.holding`      an entry whose result is one value.

**`QueryLog.load_saved`**: what was saved is loaded, the last entries of it, if the file is not too
deep.  An entry has six brackets around its values in a file, five in a text of its own and four in a
response, so a file may be too deep though all that it holds was read: **`QueryLog.rejected_iff`**.
-/

namespace QueryDesk

open Json Json.Reading

/-! ## entries of one value -/

namespace Json

/-- so many brackets around nothing -/
def nested : Nat → Json
  | 0 => null
  | n + 1 => array [nested n]

theorem nesting_nested (n : Nat) : (nested n).nesting = n := by
  induction n with
  | zero => rfl
  | succ n ih => rw [nested, nesting, nestings, nestings, ih, Nat.max_zero, Nat.add_comm]

theorem rereading_nested (n : Nat) : (nested n).rereading = nested n := by
  induction n with
  | zero => rfl
  | succ n ih => rw [nested, rereading, rereadings, rereadings, ih]

end Json

namespace LogEntry

def holding (v : Json) : LogEntry :=
  ⟨Instant.newYear2024, none, "SELECT 1", .data (.ofResults "SELECT 1" [v]), "server1", .user⟩

theorem rereading_holding {v : Json} (h : v.rereading = v) :
    (holding v).rereading = holding v := by
  show { holding v with result := .data { ResultSet.ofResults "SELECT 1" [v] with
    results := [v.rereading] } } = holding v
  rw [h]
  rfl

end LogEntry

/-! ## nothing is lost -/

theorem LogEntry.rereading_eq {e : LogEntry} (h : ∀ v ∈ e.values, v.Lasting) : e.rereading = e := by
  obtain ⟨start, name, sql, result, connection, origin⟩ := e
  cases result with
  | error text => rfl
  | data set =>
    have hresults : set.results.map Json.rereading = set.results := by
      rw [← rereadings_eq]
      exact Lasting.rereadings_eq set.results h
    show LogEntry.mk start name sql (.data { set with results := set.results.map Json.rereading })
      connection origin = _
    rw [hresults]

namespace QueryLog

theorem map_rereading_entries {log : QueryLog}
    (h : ∀ e ∈ log.entries, ∀ v ∈ e.values, v.Lasting) :
    log.entries.map LogEntry.rereading = log.entries := by
  rw [List.map_congr_left fun e he => LogEntry.rereading_eq (h e he), List.map_id']

/-- **Saving and loading a log loses nothing.**  The file nests no deeper than a text may, no object
among the results has two members of one key, and doubles are printed with digits that read back:
then the log is loaded, with the last of its entries if not all have room. -/
theorem load_saved (capacity : Nat) (log : QueryLog) (hdepth : log.document.nesting ≤ depth)
    (hvalues : ∀ e ∈ log.entries, ∀ v ∈ e.values, v.Lasting) :
    load capacity (some log.file.toUTF8) = .ok ⟨max capacity 1,
      log.entries.drop (log.entries.length - max capacity 1)⟩ := by
  have hwindow : Window (max capacity 1) log.entries (log.entries.foldl push (empty capacity)) :=
    (window_empty capacity).foldl_push (by omega) log.entries
  rw [load_file, if_pos hdepth, map_rereading_entries hvalues, ← hwindow.entries_eq,
    ← hwindow.capacity_eq]

/-- a row with a whole number, half of one and a text -/
def row : Json :=
  .object [("id", .number (.whole (-7) (by omega))),
    ("ratio", .number (.real ⟨false, 4602678819172646912, by decide⟩)), ("text", .string "né\n")]

theorem lasting_row : row.Lasting where
  keys members hpart := by
    cases hpart with
    | self => decide
    | member mem inner =>
      simp only [List.mem_cons, List.not_mem_nil, or_false] at mem
      obtain rfl | rfl | rfl := mem <;> cases inner
  doubles x hpart := by
    cases hpart with
    | member mem inner =>
      simp only [List.mem_cons, List.not_mem_nil, or_false] at mem
      obtain rfl | rfl | rfl := mem <;> cases inner
      exact parse?_text (by decide +kernel)

/-- of two saved entries, an error and a row, a log without room for both loads the last -/
theorem load_saved_newest :
    load 0 (some (QueryLog.mk 10 [{ LogEntry.holding row with
      name := some "preview", result := .error "no table" }, .holding row]).file.toUTF8) =
      .ok ⟨1, [.holding row]⟩ := by
  refine load_saved 0 ⟨10, [{ LogEntry.holding row with
    name := some "preview", result := .error "no table" }, .holding row]⟩ ?_ ?_
  · refine (nesting_document_le_iff (n := 121)).mpr (List.forall_mem_cons.mpr ⟨nofun, ?_⟩)
    exact List.forall_mem_singleton.mpr (List.forall_mem_singleton.mpr (by decide))
  · refine List.forall_mem_cons.mpr ⟨nofun, ?_⟩
    exact List.forall_mem_singleton.mpr (List.forall_mem_singleton.mpr lasting_row)

end QueryLog

/-! ## what was read -/

namespace Json.Reading

variable {α : Type}

/-- the values in what was read leave so many brackets of the room for others around them -/
def Within (r : Reading α) (values : α → List Json) (around : Nat) : Prop :=
  ∀ room s a, r room s = some a → ∀ v ∈ values a, v.nesting + around ≤ room

theorem within_values : Within (Reading.list value) id 1 := by
  intro room s js h
  cases room with
  | zero => cases h
  | succ room =>
    cases s with
    | array items =>
      have hread : ∀ (items : List Source) {js : List Json}, items.mapM (value room) = some js →
          ∀ v ∈ js, v.nesting ≤ room := by
        intro items
        induction items with
        | nil =>
          intro js h
          cases h
          exact nofun
        | cons s items ih =>
          intro js h
          rw [List.mapM_cons] at h
          obtain ⟨j, hj, h⟩ := Option.bind_eq_some_iff.mp h
          obtain ⟨js', hjs, h⟩ := Option.bind_eq_some_iff.mp h
          cases h
          exact List.forall_mem_cons.mpr ⟨nesting_le_of_value s hj, ih hjs⟩
      exact fun v hv => Nat.succ_le_succ (hread items h v hv)
    | _ => cases h

section
variable {r : Reading α} {values : α → List Json} {around : Nat}

theorem Within.required (h : Within r values around) {name : String} {room : Nat} {fields : Fields}
    {a : α} (ha : Reading.required r name room fields = some a) :
    ∀ v ∈ values a, v.nesting + around ≤ room := by
  obtain ⟨s, -, ha⟩ := Option.bind_eq_some_iff.mp ha
  exact h room s a ha

theorem Within.defaulted (h : Within r values around) {default : α} (hdefault : values default = [])
    {name : String} {room : Nat} {fields : Fields} {a : α}
    (ha : Reading.defaulted default r name room fields = some a) :
    ∀ v ∈ values a, v.nesting + around ≤ room := by
  unfold Reading.defaulted at ha
  split at ha
  next =>
    cases ha
    rw [hdefault]
    exact nofun
  next s _ => exact h room s a ha

theorem Within.record {names : List String} {build : Nat → Fields → Option α}
    (h : ∀ room fields a, build room fields = some a → ∀ v ∈ values a, v.nesting + around ≤ room) :
    Within (Reading.record names build) values (around + 1) := by
  intro room s a ha v hv
  cases room with
  | zero => cases ha
  | succ room =>
    obtain ⟨fields, -, ha⟩ := Option.bind_eq_some_iff.mp ha
    exact Nat.succ_le_succ (h room fields a ha v hv)

theorem Within.tagged {build : Nat → String → Source → Option α}
    (h : ∀ room key s a, build room key s = some a → ∀ v ∈ values a, v.nesting + around ≤ room) :
    Within (Reading.tagged build) values (around + 1) := by
  intro room s a ha v hv
  unfold Reading.tagged at ha
  split at ha
  next room pieces s =>
    obtain ⟨key, -, ha⟩ := Option.bind_eq_some_iff.mp ha
    exact Nat.succ_le_succ (h room key s a ha v hv)
  next => cases ha

theorem Within.enveloped (h : Within r values around) :
    Within (Json.Reading.enveloped r) values (around + 1) :=
  .record fun _ _ _ ha => h.required ha

end

end Json.Reading

theorem ResultSet.within_attributes : Within attributes (·.2) 2 := by
  refine .record fun room fields a ha => ?_
  obtain ⟨sql, -, ha⟩ := Option.bind_eq_some_iff.mp ha
  obtain ⟨results, hresults, ha⟩ := Option.bind_eq_some_iff.mp ha
  cases ha
  exact within_values.defaulted rfl hresults

theorem ResultSet.within_reading : Within reading (·.results) 3 := by
  refine .record fun room fields a ha => ?_
  obtain ⟨id, -, ha⟩ := Option.bind_eq_some_iff.mp ha
  obtain ⟨kind, -, ha⟩ := Option.bind_eq_some_iff.mp ha
  obtain ⟨⟨sql, results⟩, hattributes, ha⟩ := Option.bind_eq_some_iff.mp ha
  cases ha
  exact within_attributes.defaulted rfl hattributes

namespace LogEntry

theorem Result.within_reading : Within Result.reading values 4 := by
  refine .tagged fun room key s r hr => ?_
  split at hr
  next =>
    obtain ⟨set, hset, rfl⟩ := Option.map_eq_some_iff.mp hr
    exact ResultSet.within_reading room s set hset
  next =>
    split at hr
    next =>
      obtain ⟨text, -, rfl⟩ := Option.map_eq_some_iff.mp hr
      exact nofun
    next => cases hr

theorem within_reading : Within reading values 5 := by
  refine .record fun room fields e he => ?_
  obtain ⟨text, -, he⟩ := Option.bind_eq_some_iff.mp he
  obtain ⟨start, -, he⟩ := Option.bind_eq_some_iff.mp he
  obtain ⟨name, -, he⟩ := Option.bind_eq_some_iff.mp he
  obtain ⟨sql, -, he⟩ := Option.bind_eq_some_iff.mp he
  obtain ⟨result, hresult, he⟩ := Option.bind_eq_some_iff.mp he
  obtain ⟨connection, -, he⟩ := Option.bind_eq_some_iff.mp he
  obtain ⟨origin, -, he⟩ := Option.bind_eq_some_iff.mp he
  cases he
  exact Result.within_reading.required hresult

/-! ## entries that were read -/

inductive Parsed (e : LogEntry) : Prop
  | text (text : String) (h : parse reading text = some e)
  | response (body : String) (set : ResultSet)
      (h : parse (enveloped ResultSet.reading) body = some set) (result_eq : e.result = .data set)

theorem Parsed.nesting_le {e : LogEntry} (h : e.Parsed) : ∀ v ∈ e.values, v.nesting ≤ 123 := by
  intro v hv
  cases h with
  | text text h =>
    obtain ⟨s, -, h⟩ := Option.bind_eq_some_iff.mp h
    have := within_reading depth s e h v hv
    unfold depth at this
    omega
  | response body set h result_eq =>
    obtain ⟨s, -, h⟩ := Option.bind_eq_some_iff.mp h
    rw [values, result_eq] at hv
    have := ResultSet.within_reading.enveloped depth s set h v hv
    unfold depth at this
    omega

/-- a text of its own has room for 122 brackets -/
theorem parsed_of_text {v : Json} (hfits : v.nesting ≤ 122) (h : v.rereading = v) :
    (holding v).Parsed := by
  have hentry : (holding v).toJson.nesting ≤ depth :=
    nesting_toJson_le_iff.mpr (List.forall_mem_singleton.mpr hfits)
  refine .text (holding v).toJson.compact ?_
  rw [compact, undoes_reading.parse_write, if_pos hentry, rereading_holding h]

/-- a response has room for 123 -/
theorem parsed_of_response {v : Json} (hfits : v.nesting ≤ 123) (h : v.rereading = v) :
    (holding v).Parsed := by
  have hbody : (Json.object [("data", (ResultSet.ofResults "SELECT 1" [v]).toJson)]).nesting ≤
      depth := by
    show _ ≤ 123 + 3 + 1
    rw [nesting_object_le_iff, List.forall_mem_singleton, ResultSet.nesting_toJson_le_iff]
    exact List.forall_mem_singleton.mpr hfits
  refine .response (Json.compact (.object
    [("data", (ResultSet.ofResults "SELECT 1" [v]).toJson)])) (.ofResults "SELECT 1" [v]) ?_ rfl
  rw [compact, ResultSet.undoes_reading.enveloped.parse_write, if_pos hbody]
  show some { ResultSet.ofResults "SELECT 1" [v] with results := [v.rereading] } = _
  rw [h]
  rfl

end LogEntry

/-! ## files that are too deep -/

namespace QueryLog

/-- **Which saved logs are rejected.**  A log of entries that were read is saved and rejected when one
of its values nests 122 or 123 brackets, and loaded otherwise. -/
theorem rejected_iff (capacity : Nat) (log : QueryLog) (h : ∀ e ∈ log.entries, e.Parsed) :
    (load capacity (some log.file.toUTF8) = .error corrupt ↔
      ∃ e ∈ log.entries, ∃ v ∈ e.values, v.nesting = 122 ∨ v.nesting = 123) ∧
    ((∃ loaded, load capacity (some log.file.toUTF8) = .ok loaded) ↔
      ∀ e ∈ log.entries, ∀ v ∈ e.values, v.nesting ≤ 121) := by
  have hdepth : log.document.nesting ≤ depth ↔
      ∀ e ∈ log.entries, ∀ v ∈ e.values, v.nesting ≤ 121 := nesting_document_le_iff
  rw [load_file]
  by_cases hfits : log.document.nesting ≤ depth
  · rw [if_pos hfits]
    refine ⟨⟨nofun, ?_⟩, fun _ => hdepth.mp hfits, fun _ => ⟨_, rfl⟩⟩
    rintro ⟨e, he, v, hv, hdeep⟩
    have := hdepth.mp hfits e he v hv
    omega
  · rw [if_neg hfits]
    refine ⟨⟨fun _ => ?_, fun _ => rfl⟩, nofun, fun hall => absurd (hdepth.mpr hall) hfits⟩
    have hdeep := mt hdepth.mpr hfits
    simp only [not_forall, not_le] at hdeep
    obtain ⟨e, he, v, hv, hlt⟩ := hdeep
    have := (h e he).nesting_le v hv
    exact ⟨e, he, v, hv, by omega⟩

theorem rejected_iff_nested : ∃ loaded,
    load 10 (some (QueryLog.mk 10 [.holding (.nested 121)]).file.toUTF8) = .ok loaded := by
  have hnesting := nesting_nested 121
  refine (rejected_iff 10 ⟨10, [.holding (.nested 121)]⟩ (List.forall_mem_singleton.mpr
    (LogEntry.parsed_of_text (by omega) (rereading_nested 121)))).2.mpr ?_
  exact List.forall_mem_singleton.mpr (List.forall_mem_singleton.mpr hnesting.le)

/-- with a bracket more than a file has room for, and another that a response still has -/
theorem parsed_but_rejected :
    ((LogEntry.holding (.nested 122)).Parsed ∧
      load 10 (some (QueryLog.mk 10 [.holding (.nested 122)]).file.toUTF8) = .error corrupt) ∧
    ((LogEntry.holding (.nested 123)).Parsed ∧
      load 10 (some (QueryLog.mk 10 [.holding (.nested 123)]).file.toUTF8) = .error corrupt) := by
  have rejected : ∀ n, 121 < n →
      load 10 (some (QueryLog.mk 10 [.holding (.nested n)]).file.toUTF8) = .error corrupt := by
    intro n hn
    rw [load_file, if_neg]
    intro hfits
    have hle := nesting_document_le_iff.mp hfits (.holding (.nested n)) List.mem_cons_self
      (.nested n) List.mem_cons_self
    rw [nesting_nested] at hle
    exact Nat.not_lt.mpr hle hn
  exact ⟨⟨LogEntry.parsed_of_text (nesting_nested 122).le (rereading_nested 122),
      rejected 122 (by omega)⟩,
    LogEntry.parsed_of_response (nesting_nested 123).le (rereading_nested 123),
      rejected 123 (by omega)⟩

end QueryLog

end QueryDesk
