import QueryDesk.Session.Tabs

/-!
# Errors of the console

* `Missing`             what was not found;
* `ConsoleError`        the six kinds of failure;
* `ConsoleError.text`   the text shown to a user, with a choice of how identities are shown;
* `isTransport`         the failure happened on the wire.
-/

namespace QueryDesk

/-- how identities are shown -/
structure Names where
  worksheet : WorksheetId → String
  tab : TabId → String

/-- identities shown as their numbers -/
def Names.numbered : Names := ⟨fun w => toString w.number, fun t => toString t.number⟩

/-- what was not found -/
inductive Missing where
  | worksheet (id : WorksheetId)
  | tab (id : TabId)
  | tabConnection (id : TabId)
  | worksheetConnection (id : WorksheetId)
  | named (text : String)
deriving DecidableEq

def Missing.text (names : Names) : Missing → String
  | worksheet id => "worksheet " ++ names.worksheet id
  | tab id => "query tab " ++ names.tab id
  | tabConnection id => "connection for query tab " ++ names.tab id
  | worksheetConnection id => "connection for worksheet " ++ names.worksheet id
  | named text => text

inductive ConsoleError where
  /-- the server was not reached, or the exchange broke off -/
  | transport (message : String)
  /-- given up before an answer came -/
  | cancelled
  /-- the server answered with a status other than success -/
  | api (status : UInt16) (message : String)
  | config (message : String)
  | notFound (what : Missing)
  /-- an answer that makes no sense, or a file that cannot be used -/
  | internal (message : String)
deriving DecidableEq

namespace ConsoleError

def text (names : Names) : ConsoleError → String
  | transport message => "Transport error: " ++ message
  | cancelled => "Request cancelled"
  | api status message => "API error (" ++ toString status.toNat ++ "): " ++ message
  | config message => "Configuration error: " ++ message
  | notFound what => "Not found: " ++ what.text names
  | internal message => "Internal error: " ++ message

def message (e : ConsoleError) : String := e.text Names.numbered

/-- the heading under which an error is shown -/
def category : ConsoleError → String
  | transport _ => "Transport Error"
  | cancelled => "Cancelled"
  | api _ _ => "API Error"
  | config _ => "Configuration Error"
  | notFound _ => "Not Found"
  | internal _ => "Internal Error"

/-- the failure happened on the wire; giving up counts -/
def isTransport : ConsoleError → Bool
  | transport _ | cancelled | api _ _ => true
  | config _ | notFound _ | internal _ => false

end ConsoleError

end QueryDesk
