import QueryDesk.Json.Reading

/-!
# What the server answers

* `ResultSet`                  the answer to a query: a result for each statement;
* `ResultSet.canceled`         the result shown for a query that was stopped;
* `firstError?`, `firstValue?` the little that the console looks at;
* `ResultSet.reading`, `toJson`   its form on the wire, and `enveloped` for a whole response body;
* `ErrorDocument.message`      what the body of a response says that is no success: a list of errors,
  each with its detail.
-/

namespace QueryDesk

/-- a result of each statement: rows, an acknowledgement or an error, kept as they came -/
structure ResultSet where
  id : Option String
  kind : Option String
  sql : String
  results : List Json

namespace ResultSet

def ofResults (sql : String) (results : List Json) : ResultSet := ⟨none, none, sql, results⟩

/-- the result shown for a query that was stopped -/
def canceled (sql : String) : ResultSet :=
  ofResults sql [.object [("message", .string "Query canceled")]]

/-- the first result, if it is an error row -/
def firstError? (r : ResultSet) : Option (List (String × Json)) := do
  let row ← (← r.results.head?).object?
  if row.any (·.1 = "errno") then some row else none

/-- the first value of the first row of the first result -/
def firstValue? (r : ResultSet) : Option Json := do
  (← (← (← r.results.head?).member? "data").head?).head?

/-! ## on the wire -/

/-- a member that is left out when it is absent -/
def ifPresent (name : String) (x : Option String) : List (String × Json) :=
  match x with
  | none => []
  | some s => [(name, .string s)]

def toJson (r : ResultSet) : Json :=
  .object (ifPresent "id" r.id ++ ifPresent "type" r.kind ++
    [("attributes", .object [("sql", .string r.sql), ("results", .array r.results)])])

open Json Json.Reading

def attributes : Reading (String × List Json) :=
  record ["sql", "results"] fun room fields => do
    return (← defaulted "" string "sql" room fields,
      ← defaulted [] (list value) "results" room fields)

def reading : Reading ResultSet :=
  record ["id", "type", "attributes"] fun room fields => do
    let id ← defaulted none (optional string) "id" room fields
    let kind ← defaulted none (optional string) "type" room fields
    let (sql, results) ← defaulted ("", []) attributes "attributes" room fields
    return ⟨id, kind, sql, results⟩

end ResultSet

/-- the `data` of a response body -/
def Json.Reading.enveloped {α : Type} (r : Json.Reading α) : Json.Reading α :=
  record ["data"] fun room fields => required r "data" room fields

/-! ## error documents -/

namespace ErrorDocument

open Json Json.Reading

def detail : Reading String :=
  record ["detail"] fun room fields => defaulted "" string "detail" room fields

def details : Reading (List String) :=
  record ["errors"] fun room fields => defaulted [] (list detail) "errors" room fields

/-- the details, parted by semicolons; the body itself when it names no error -/
def message (body : String) : String :=
  match parse details body with
  | some (d :: ds) => "; ".intercalate (d :: ds)
  | _ => body

end ErrorDocument

end QueryDesk
