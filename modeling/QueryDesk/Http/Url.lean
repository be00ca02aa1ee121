import QueryDesk.Http.Domain
import QueryDesk.Http.Host
import QueryDesk.Http.Percent

/-!
# URLs

A `Url` is the address of something on the web, in its parts and in normal form.

* `Url.read`          a text, or a `Fault`; addresses of other schemes are told apart by their
  scheme;
* `Url.text`          the parts written out;
* `Url.follow`        a path from its segments: `.` is dropped, `..` drops the segment before it.

Tabs and line breaks anywhere, and blanks and control characters around the text, do not count.
-/

namespace QueryDesk

inductive Url.Scheme where
  | http
  | https
deriving DecidableEq

inductive Url.Host where
  | domain (name : List Char)
  | ipv4 (address : Nat)
  | ipv6 (pieces : List Nat)
deriving DecidableEq

structure Url where
  scheme : Url.Scheme
  user : List Char
  password : List Char
  host : Url.Host
  /-- none when it is the usual port of the scheme -/
  port : Option Nat
  /-- at least one segment -/
  path : List (List Char)
  query : Option (List Char)
  fragment : Option (List Char)
deriving DecidableEq

namespace Url

/-- why a text is no URL -/
inductive Fault where
  | noScheme
  | emptyHost
  | badName
  | badCharacter
  | badPort
  | badIpv4
  | badIpv6
deriving DecidableEq

def Fault.text : Fault → String
  | noScheme => "relative URL without a base"
  | emptyHost => "empty host"
  | badName => "invalid international domain name"
  | badCharacter => "invalid domain character"
  | badPort => "invalid port number"
  | badIpv4 => "invalid IPv4 address"
  | badIpv6 => "invalid IPv6 address"

/-! ## writing -/

def Scheme.chars : Scheme → List Char
  | http => "http".toList
  | https => "https".toList

def Scheme.port : Scheme → Nat
  | http => 80
  | https => 443

def Host.chars : Host → List Char
  | domain name => name
  | ipv4 address => Ipv4.text address
  | ipv6 pieces => '[' :: Ipv6.text pieces ++ [']']

/-- user and password in front of the host; an empty password is left out -/
def credentials (u : Url) : List Char :=
  let password := if u.password = [] then [] else ':' :: u.password
  if u.user = [] ∧ u.password = [] then [] else u.user ++ password ++ ['@']

def authority (u : Url) : List Char :=
  u.credentials ++ u.host.chars ++ (match u.port with
    | none => []
    | some p => ':' :: Digits.digits p)

def pathChars (u : Url) : List Char := u.path.flatMap ('/' :: ·)

def marked (mark : Char) : Option (List Char) → List Char
  | none => []
  | some cs => mark :: cs

def chars (u : Url) : List Char :=
  u.scheme.chars ++ [':', '/', '/'] ++ u.authority ++ u.pathChars ++ marked '?' u.query
    ++ marked '#' u.fragment

def text (u : Url) : String := String.ofList u.chars

/-! ## reading -/

/-- what counts of a text -/
def clean (cs : List Char) : List Char :=
  let isOuter (c : Char) : Bool := c.toNat ≤ 0x20
  let inner := (((cs.dropWhile isOuter).reverse).dropWhile isOuter).reverse
  inner.filter fun c => c ≠ '\t' && c ≠ '\n' && c ≠ '\r'

def isSchemeChar (c : Char) : Bool := c.isAlphanum || c = '+' || c = '-' || c = '.'

/-- a scheme in lower case, and what follows its colon -/
def scheme? (cs : List Char) : Option (List Char × List Char) :=
  match cs.span isSchemeChar with
  | (name, ':' :: rest) =>
    if (name.head?.map Char.isAlpha).getD false then some (name.map Char.toLower, rest) else none
  | _ => none

/-- where an authority ends -/
def isEnd (special : Bool) (c : Char) : Bool :=
  c = '/' || c = '?' || c = '#' || (special && c = '\\')

/-- what stands before the last `@`, and what behind it -/
def splitUser (cs : List Char) : Option (List Char × List Char) :=
  match cs.reverse.span (· ≠ '@') with
  | (host, _ :: user) => some (user.reverse, host.reverse)
  | _ => none

/-- a host, and the port behind it with its colon, a colon inside brackets being no end -/
def splitHost : (inside : Bool) → List Char → List Char × List Char
  | _, [] => ([], [])
  | inside, c :: cs =>
    if c = ':' ∧ inside = false then ([], c :: cs)
    else
      let (host, rest) := splitHost (if c = '[' then true else if c = ']' then false else inside) cs
      (c :: host, rest)

/-- a name or an address -/
def Host.read (cs : List Char) : Except Fault Host :=
  match cs with
  | '[' :: rest =>
    if rest.getLast? = some ']' then
      match Ipv6.parse? rest.dropLast with
      | some pieces => .ok (ipv6 pieces)
      | none => .error .badIpv6
    else .error .badIpv6
  | _ =>
    match (Percent.text? (Percent.decode cs)).bind Domain.ascii? with
    | none => .error .badName
    | some [] => .error .emptyHost
    | some name =>
      if Ipv4.isAddress name then
        match Ipv4.parse? name with
        | some address => .ok (ipv4 address)
        | none => .error .badIpv4
      else .ok (domain name)

def opaqueForbidden : List Char :=
  ['\x00', '\t', '\n', '\r', ' ', '#', '/', ':', '<', '>', '?', '@', '[', '\\', ']', '^', '|']

/-- a host of a scheme that has no names of its own is only looked through -/
def checkOpaque (cs : List Char) : Except Fault Unit :=
  match cs with
  | '[' :: rest =>
    if rest.getLast? = some ']' ∧ (Ipv6.parse? rest.dropLast).isSome then .ok ()
    else .error .badIpv6
  | _ =>
    if cs.any (· ∈ opaqueForbidden) then .error .badCharacter else .ok ()

/-- a port, if one is written -/
def port? (cs : List Char) : Except Fault (Option Nat) :=
  match cs with
  | [] => .ok none
  | _ :: ds =>
    if !ds.all Digits.isDigit ∨ 65535 < Digits.value ds then .error .badPort
    else .ok (if ds = [] then none else some (Digits.value ds))

/-- the parts of an authority -/
structure Authority where
  user : List Char
  password : List Char
  host : List Char
  /-- with its colon -/
  port : List Char

def Authority.read (cs : List Char) : Authority :=
  match splitUser cs with
  | none => let (host, port) := splitHost false cs; ⟨[], [], host, port⟩
  | some (credentials, rest) =>
    let (user, password) := credentials.span (· ≠ ':')
    let (host, port) := splitHost false rest
    ⟨Percent.encode Percent.userSet user, Percent.encode Percent.userSet (password.drop 1), host,
      port⟩

/-! ## paths -/

def isDot (segment : List Char) : Bool := segment.map Char.toLower ∈ [['.'], ['%', '2', 'e']]

def isDoubleDot (segment : List Char) : Bool :=
  segment.map Char.toLower ∈ [['.', '.'], ['.', '%', '2', 'e'], ['%', '2', 'e', '.'],
    ['%', '2', 'e', '%', '2', 'e']]

/-- a path followed segment by segment; where the last one is dropped, the path ends with a slash -/
def follow (path : List (List Char)) : List (List Char) → List (List Char)
  | [] => path
  | segment :: rest =>
    let close (path : List (List Char)) := if rest = [] then path ++ [[]] else path
    if isDoubleDot segment then follow (close path.dropLast) rest
    else if isDot segment then follow (close path) rest
    else follow (path ++ [segment]) rest

/-- the segments of what stands behind an authority -/
def readPath (cs : List Char) : List (List Char) :=
  let cs := cs.map fun c => if c = '\\' then '/' else c
  let segments := List.splitOn '/' (match cs with
    | '/' :: rest => rest
    | _ => cs)
  follow [] (segments.map (Percent.encode Percent.pathSet))

/-! ## whole addresses -/

/-- an address of the web, or the scheme of another address -/
inductive Address where
  | web (u : Url)
  | other (scheme : List Char)

/-- what stands before and behind a mark -/
def cutAt (mark : Char) (cs : List Char) : List Char × Option (List Char) :=
  match cs.span (· ≠ mark) with
  | (left, _ :: right) => (left, some right)
  | (left, []) => (left, none)

def ofParts (scheme : Scheme) (rest : List Char) : Except Fault Url := do
  let (authority, rest) := rest.span (fun c => !isEnd true c)
  let a := Authority.read authority
  if a.host = [] then throw .emptyHost
  let host ← Host.read a.host
  let port ← port? a.port
  let (rest, fragment) := cutAt '#' rest
  let (path, query) := cutAt '?' rest
  return {
    scheme, user := a.user, password := a.password, host
    port := if port = some scheme.port then none else port
    path := readPath path
    query := query.map (Percent.encode Percent.querySet)
    fragment := fragment.map (Percent.encode Percent.fragmentSet) }

/-- an address behind two slashes whose parts are not needed -/
def checkAuthority (rest : List Char) : Except Fault Unit := do
  let (authority, rest) := rest.span (fun c => !isEnd false c)
  let a := Authority.read authority
  if a.host = [] then
    if a.port ≠ [] ∨ a.user ≠ [] ∨ a.password ≠ [] ∨ (authority = ['@'] ∧ rest ≠ []) then
      throw .emptyHost
    else return ()
  checkOpaque a.host
  let (_, behind) := a.port.span (· ≠ '\\')
  let _ ← port? (a.port.take (a.port.length - behind.length))

/-- a host of a file, a drive letter being none -/
def checkFile (rest : List Char) : Except Fault Unit :=
  match rest with
  | a :: b :: rest =>
    if (a = '/' ∨ a = '\\') ∧ (b = '/' ∨ b = '\\') then
      let host := rest.takeWhile fun c => !isEnd true c
      match host with
      | [] => .ok ()
      | [d, e] =>
        if d.isAlpha ∧ (e = ':' ∨ e = '|') then .ok () else (Host.read host).map fun _ => ()
      | _ => (Host.read host).map fun _ => ()
    else .ok ()
  | _ => .ok ()

def read (s : String) : Except Fault Address := do
  match scheme? (clean s.toList) with
  | none => throw .noScheme
  | some (scheme, rest) =>
    let behind := rest.dropWhile fun c => c = '/' || c = '\\'
    if scheme = Scheme.http.chars then return .web (← ofParts .http behind)
    else if scheme = Scheme.https.chars then return .web (← ofParts .https behind)
    else if scheme ∈ ["ftp".toList, "ws".toList, "wss".toList] then
      let _ ← ofParts .http behind
      return .other scheme
    else if scheme = "file".toList then
      checkFile rest
      return .other scheme
    else
      match rest with
      | '/' :: '/' :: rest => checkAuthority rest
      | _ => return .other scheme
      return .other scheme

end Url

end QueryDesk
