import QueryDesk.Error
import QueryDesk.Log.Entry

/-!
# The query log

The newest entries, as many as the log holds, the oldest first.

* `QueryLog.push`      one more entry; the oldest makes room for it;
* `QueryLog.ofOrigin`  the entries that one side had run;
* `QueryLog.file`      the content of a file with all entries;
* `QueryLog.load`      the log of such a file; a missing file has no entries.
-/

namespace QueryDesk

structure QueryLog where
  /-- the entries kept, at least one -/
  capacity : Nat
  entries : List LogEntry

namespace QueryLog

def defaultCapacity : Nat := 500

/-- an empty log; a capacity of nought counts as one -/
def empty (capacity : Nat) : QueryLog := ⟨max capacity 1, []⟩

def push (log : QueryLog) (e : LogEntry) : QueryLog :=
  { log with entries := log.entries.drop (log.entries.length + 1 - log.capacity) ++ [e] }

def clear (log : QueryLog) : QueryLog := { log with entries := [] }

def ofOrigin (log : QueryLog) (origin : LogEntry.Origin) : List LogEntry :=
  log.entries.filter (·.origin = origin)

/-! ## files -/

def file (log : QueryLog) : String := (Json.array (log.entries.map LogEntry.toJson)).pretty

/-- the log of a file that has this content; what is said of a corrupt one names neither the file nor
the place of the fault -/
def load (capacity : Nat) (content : Option ByteArray) : Except ConsoleError QueryLog :=
  match content with
  | none => .ok (empty capacity)
  | some bytes =>
    match String.fromUTF8? bytes with
    | none => .error (.internal "Failed to read query log: stream did not contain valid UTF-8")
    | some text =>
      match Json.Reading.parse (Json.Reading.list LogEntry.reading) text with
      | none => .error (.internal "Corrupt query log: it is no list of entries")
      | some entries => .ok (entries.foldl push (empty capacity))

end QueryLog

end QueryDesk
