import QueryDesk.Api.Connection
import QueryDesk.Json.Printer
import QueryDesk.Settings.Basic
import QueryDesk.Text.Basic

/-!
# Calls over HTTP

A `Client` turns a call of the server into a `Request`, and what becomes of the request, an
`Exchange`, into the reply to the call.

* `Client.request`    the request of a call;
* `Call.answer`       the reply to a call;
* `Call.perform`      the same for a call that may have been given up before it was sent.
-/

namespace QueryDesk

namespace Http

inductive Method where
  | post
  | delete
deriving DecidableEq

def Method.text : Method → String
  | post => "POST"
  | delete => "DELETE"

structure Request where
  method : Method
  /-- without user and password -/
  url : Url
  /-- the credentials that are sent, those of the address before those of the settings -/
  authorization : List String
  /-- a JSON document -/
  body : Option String

/-- path and query, as they stand in the first line of a request -/
def Request.target (r : Request) : String :=
  String.ofList (r.url.pathChars ++ Url.marked '?' r.url.query)

def Request.contentType (r : Request) : Option String := r.body.map fun _ => "application/json"

/-- what becomes of a request -/
inductive Exchange where
  /-- no connection to the server -/
  | unreachable (detail : String)
  | timedOut
  /-- no answer came -/
  | broken (detail : String)
  /-- the answer broke off -/
  | unread (detail : String)
  | answered (status : UInt16) (body : ByteArray)

/-! ## requests -/

/-- user and password for basic authentication -/
def credentials (user : String) (password : Option String) : String :=
  "Basic " ++ String.ofList (Base64.encode (user ++ ":" ++ password.getD "").toUTF8.toList)

/-- credentials that stand in an address, if they are text -/
def urlCredentials (u : Url) : Option String := do
  let decoded (cs : List Char) : Option (List Char) := Percent.text? (Percent.decode cs)
  if u.user = [] ∧ u.password = [] then none
  let user ← decoded u.user
  let password := if u.password = [] then none else decoded u.password
  if user = [] ∧ password = none then none
  some (credentials (String.ofList user) (password.map String.ofList))

structure Client where
  root : ApiRoot
  user : Option String
  password : Option String
  /-- seconds after which a request is given up -/
  timeout : Option UInt64
deriving DecidableEq

namespace Client

def ofSettings (s : ApiSettings) : Except ConsoleError Client := do
  return ⟨← s.root, s.user, s.password, s.timeout⟩

/-- a request for an endpoint -/
def send (c : Client) (method : Method) (path : String) (body : Option Json) :
    Except ConsoleError Request :=
  match Url.read (c.root.endpoint path) with
  | .ok (.web url) => .ok {
      method
      url := { url with user := [], password := [] }
      authorization := (urlCredentials url).toList ++ (c.user.map (credentials · c.password)).toList
      body := body.map Json.compact }
  | _ => .error (.transport "Request failed: no address of the web")

def request (c : Client) : Call → Except ConsoleError Request
  | .connect params => c.send .post "sql" (some params.toJson)
  | .clone id => c.send .post ("sql/" ++ id.text ++ "/clone") none
  | .query id request _ => c.send .post ("sql/" ++ id.text ++ "/queries") (some request.toJson)
  | .release id => c.send .delete ("sql/" ++ id.text) none

end Client

/-! ## replies -/

def isSuccess (status : UInt16) : Bool := 200 ≤ status.toNat && status.toNat < 300

/-- the body of an answer that is a success -/
def Exchange.success : Exchange → Except ConsoleError String
  | unreachable detail => .error (.transport ("Failed to connect to the REST API: " ++ detail))
  | timedOut => .error (.transport "Request timed out")
  | broken detail => .error (.transport ("Request failed: " ++ detail))
  | unread detail => .error (.transport ("Failed to read response: " ++ detail))
  | answered status body =>
    let text := Utf8.decode body
    if isSuccess status then .ok text else .error (.api status (ErrorDocument.message text))

/-- the record that an answer holds; what is said of another answer does not name the place of the
fault -/
def Exchange.record {α : Type} (r : Json.Reading α) (x : Exchange) : Except ConsoleError α :=
  match x.success with
  | .error e => .error e
  | .ok text =>
    match Json.Reading.parse (Json.Reading.enveloped r) text with
    | some a => .ok a
    | none => .error (.internal "Failed to parse response: not the record that was asked for")

end Http

namespace Call

open Http

/-- the reply to a call -/
def answer : (c : Call) → Exchange → c.Reply
  | connect _, x => x.record ConnectionInfo.reading
  | clone _, x => x.record ConnectionInfo.reading
  | query .., x => x.record ResultSet.reading
  | release _, x => x.success.map fun _ => ()

/-- a call that was given up is not sent -/
def perform (isCancelled : CancelToken → Bool) (c : Call) (x : Exchange) : c.Reply :=
  match c.abort? with
  | some token => if isCancelled token then .error .cancelled else c.answer x
  | none => c.answer x

end Call

end QueryDesk
