import QueryDesk.Http.Url

/-!
# The root of the server's interface

* `ApiRoot.read`       an address of the web, or why a text is none;
* `ApiRoot.endpoint`   the address of an endpoint below the root.
-/

namespace QueryDesk

/-- the address below which all endpoints lie -/
structure ApiRoot where
  url : Url
deriving DecidableEq

namespace ApiRoot

inductive Fault where
  | url (fault : Url.Fault)
  /-- an address, but not one of the web -/
  | scheme (name : List Char)
deriving DecidableEq

def Fault.text : Fault → String
  | url fault => "Invalid API URL: " ++ fault.text
  | scheme name => "Invalid scheme '" ++ String.ofList name ++ "'. Expected 'http' or 'https'"

def read (text : String) : Except Fault ApiRoot :=
  match Url.read text with
  | .error fault => .error (.url fault)
  | .ok (.other name) => .error (.scheme name)
  | .ok (.web url) => .ok ⟨url⟩

/-- a text without the slashes at its end -/
def withoutSlashes (cs : List Char) : List Char := (cs.reverse.dropWhile (· = '/')).reverse

/-- one slash stands between the root and the path, however many they bring -/
def endpoint (root : ApiRoot) (path : String) : String :=
  String.ofList (withoutSlashes root.url.chars ++ '/' :: path.toList.dropWhile (· = '/'))

end ApiRoot

end QueryDesk
