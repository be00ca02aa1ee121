import QueryDesk.Log.Basic

/-!
# The log is a window on what came

* `QueryLog.Window`      the log holds the last of the entries that came, as many as fit;
* `QueryLog.Change`      what is done to a log: an entry comes, or all are dropped;
* `QueryLog.came`        the entries that came since the last time all were dropped;
* `QueryLog.Beginning`   a log begins new, or from a file that is missing or holds entries;
* `Interleaves`          two lists are dealt into a third, each in its order.

One change keeps the window (`Window.push`, `Window.clear`), so all of them do (`Window.after`).
**`bounded_window`**: so it is from every beginning on, and the two sides of the log deal its entries
out between them.
-/

namespace QueryDesk

/-- two lists dealt into a third, each in its order -/
inductive Interleaves {α : Type} : List α → List α → List α → Prop
  | nil : Interleaves [] [] []
  | left {x : α} {xs ys zs : List α} : Interleaves xs ys zs → Interleaves (x :: xs) ys (x :: zs)
  | right {y : α} {xs ys zs : List α} : Interleaves xs ys zs → Interleaves xs (y :: ys) (y :: zs)

namespace QueryLog

/-! ## the window -/

structure Window (capacity : Nat) (came : List LogEntry) (log : QueryLog) : Prop where
  capacity_eq : log.capacity = capacity
  entries_eq : log.entries = came.drop (came.length - capacity)

section
variable {capacity : Nat} {came : List LogEntry} {log : QueryLog}

theorem window_empty (capacity : Nat) : Window (max capacity 1) [] (empty capacity) :=
  ⟨rfl, List.drop_nil.symm⟩

theorem Window.push (h : Window capacity came log) (hpos : 0 < capacity) (e : LogEntry) :
    Window capacity (came ++ [e]) (log.push e) where
  capacity_eq := h.capacity_eq
  entries_eq := by
    show log.entries.drop (log.entries.length + 1 - log.capacity) ++ [e] = _
    have hle : came.length + 1 - capacity ≤ came.length := by omega
    rw [h.entries_eq, h.capacity_eq, List.drop_drop, List.length_drop, List.length_append,
      List.length_singleton, List.drop_append_of_le_length hle]
    congr 2
    omega

theorem Window.clear (h : Window capacity came log) : Window capacity [] log.clear :=
  ⟨h.capacity_eq, List.drop_nil.symm⟩

theorem Window.foldl_push (h : Window capacity came log) (hpos : 0 < capacity)
    (es : List LogEntry) : Window capacity (came ++ es) (es.foldl QueryLog.push log) := by
  induction es generalizing came log with
  | nil => rwa [List.append_nil]
  | cons e es ih =>
    rw [List.append_cons]
    exact ih (h.push hpos e)

theorem Window.suffix (h : Window capacity came log) : log.entries <:+ came := by
  rw [h.entries_eq]
  exact List.drop_suffix _ _

theorem Window.length_eq (h : Window capacity came log) :
    log.entries.length = min came.length capacity := by
  rw [h.entries_eq, List.length_drop]
  omega

end

/-- the log holds the last of the entries that came -/
theorem entries_foldl_push (capacity : Nat) (es : List LogEntry) :
    (es.foldl push (empty capacity)).entries = es.drop (es.length - max capacity 1) :=
  ((window_empty capacity).foldl_push (by omega) es).entries_eq

/-! ## changes -/

inductive Change where
  | push (e : LogEntry)
  | clear

def change (log : QueryLog) : Change → QueryLog
  | .push e => log.push e
  | .clear => log.clear

def after (log : QueryLog) (changes : List Change) : QueryLog := changes.foldl change log

/-- the entries that came since the last time all were dropped, `earlier` those before the first
change -/
def came (earlier : List LogEntry) : List Change → List LogEntry
  | [] => earlier
  | .push e :: rest => came (earlier ++ [e]) rest
  | .clear :: rest => came [] rest

theorem Window.after {capacity : Nat} {earlier : List LogEntry} {log : QueryLog}
    (h : Window capacity earlier log) (hpos : 0 < capacity) (changes : List Change) :
    Window capacity (came earlier changes) (log.after changes) := by
  induction changes generalizing earlier log with
  | nil => exact h
  | cons c rest ih =>
    cases c with
    | push e => exact ih (h.push hpos e)
    | clear => exact ih h.clear

/-! ## beginnings -/

/-- the content of a file that holds entries -/
structure File where
  bytes : ByteArray
  entries : List LogEntry
  holds : (String.fromUTF8? bytes).bind (Json.Reading.parse (Json.Reading.list LogEntry.reading)) =
    some entries

theorem File.load_eq (capacity : Nat) (f : File) :
    load capacity (some f.bytes) = .ok (f.entries.foldl push (empty capacity)) := by
  obtain ⟨text, htext, hparse⟩ := Option.bind_eq_some_iff.mp f.holds
  simp only [load, htext, hparse]

inductive Beginning where
  | new
  | missing
  | file (f : File)

def Beginning.log (capacity : Nat) : Beginning → Except ConsoleError QueryLog
  | new => .ok (empty capacity)
  | missing => load capacity none
  | file f => load capacity (some f.bytes)

def Beginning.entries : Beginning → List LogEntry
  | new | missing => []
  | file f => f.entries

theorem Beginning.window (capacity : Nat) (b : Beginning) :
    ∃ log, b.log capacity = .ok log ∧ Window (max capacity 1) b.entries log := by
  cases b with
  | new => exact ⟨_, rfl, window_empty capacity⟩
  | missing => exact ⟨_, rfl, window_empty capacity⟩
  | file f =>
    exact ⟨_, f.load_eq capacity, (window_empty capacity).foldl_push (by omega) f.entries⟩

/-! ## two sides -/

theorem interleaves_filter (es : List LogEntry) :
    Interleaves (es.filter (·.origin = .user)) (es.filter (·.origin = .console)) es := by
  induction es with
  | nil => exact .nil
  | cons e es ih =>
    cases h : e.origin with
    | user =>
      rw [List.filter_cons_of_pos (by simp [h]), List.filter_cons_of_neg (by simp [h])]
      exact .left ih
    | console =>
      rw [List.filter_cons_of_neg (by simp [h]), List.filter_cons_of_pos (by simp [h])]
      exact .right ih

/-- **The log is a bounded window.**  It holds the last entries of those that came since it began or
was cleared, in their order, as many as its capacity allows and no fewer; it is empty exactly when
none came; and those that a user had run and those that the console had run are its entries, dealt
out in their order. -/
theorem bounded_window (capacity : Nat) (b : Beginning) (changes : List Change) :
    ∃ log, b.log capacity = .ok log ∧ (log.after changes).capacity = max capacity 1 ∧
      (log.after changes).entries <:+ came b.entries changes ∧
      (log.after changes).entries.length = min (came b.entries changes).length (max capacity 1) ∧
      ((log.after changes).entries.isEmpty ↔ came b.entries changes = []) ∧
      Interleaves ((log.after changes).ofOrigin .user) ((log.after changes).ofOrigin .console)
        (log.after changes).entries ∧
      ∀ o, ∀ e ∈ (log.after changes).ofOrigin o, e.origin = o := by
  obtain ⟨log, hlog, hwindow⟩ := b.window capacity
  have h := hwindow.after (by omega) changes
  refine ⟨log, hlog, h.capacity_eq, h.suffix, h.length_eq, ?_, interleaves_filter _, ?_⟩
  · rw [List.isEmpty_iff, ← List.length_eq_zero_iff, h.length_eq, ← List.length_eq_zero_iff]
    omega
  · intro o e he
    simpa using (List.mem_filter.mp he).2

end QueryLog

end QueryDesk
