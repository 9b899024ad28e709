import ContextProvider.Json.Numeric
import ContextProvider.Url.Form
import ContextProvider.Url.Host
import ContextProvider.Url.Path

/-!
# URLs

A URL here is one to which segments can be added: a scheme, perhaps an authority of credentials,
host and port number, a path, and perhaps a query and a fragment. Paths, credentials, queries and
fragments are kept encoded. A port number that is the usual one of its scheme is not kept.
-/

namespace ContextProvider

/-- A URL with a path of segments. -/
structure Url where
  scheme : String
  username : String
  password : Option String
  host : Option Url.Host
  portNumber : Option Nat
  path : List String
  query : Option String
  fragment : Option String
  deriving DecidableEq

namespace Url

/-- The schemes of which the rules know more than the syntax, other than `file`, each with its
usual port number. -/
def usualPorts : List (String × Nat) :=
  [("http", 80), ("https", 443), ("ws", 80), ("wss", 443), ("ftp", 21)]

/-- The usual port number of a scheme. -/
def usualPort? (scheme : String) : Option Nat :=
  usualPorts.lookup scheme

/-- The scheme of files. -/
def fileScheme : String := "file"

/-- A scheme with rules of its own. -/
def isSpecialScheme (scheme : String) : Bool :=
  (usualPort? scheme).isSome || scheme == fileScheme

/-- A URL whose scheme has rules of its own. -/
def isSpecial (url : Url) : Bool :=
  isSpecialScheme url.scheme

/-- A URL with the given segments added to its path. -/
def join (url : Url) (segments : List String) : Url :=
  { url with path := extend url.isSpecial url.path segments }

/-- A URL with the given pairs added to its query. -/
def addPairs (url : Url) (pairs : List (String × String)) : Url :=
  { url with query := some (String.ofList (appendPairs (url.query.getD "").toList pairs)) }

/-- A URL without user name and password. -/
def withoutCredentials (url : Url) : Url :=
  { url with username := "", password := none }

/-- A URL without fragment. -/
def withoutFragment (url : Url) : Url :=
  { url with fragment := none }

/-! ## Writing -/

/-- The user name and password in front of a host. -/
def credentialsText (url : Url) : String :=
  let password := match url.password with
    | none => ""
    | some password => ":" ++ password
  if url.username = "" ∧ url.password = none then "" else url.username ++ password ++ "@"

/-- The authority with the slashes in front of it. -/
def authorityText (url : Url) : String :=
  let portText := match url.portNumber with
    | none => ""
    | some number => ":" ++ String.ofList (Json.natChars number)
  match url.host with
  | none => if url.scheme = fileScheme then "//" else ""
  | some host => "//" ++ url.credentialsText ++ host.text ++ portText

/-- A URL as it is written. -/
def text (url : Url) : String :=
  let query := match url.query with
    | none => ""
    | some query => "?" ++ query
  let fragment := match url.fragment with
    | none => ""
    | some fragment => "#" ++ fragment
  url.scheme ++ ":" ++ url.authorityText ++ pathText url.path ++ query ++ fragment

end Url

end ContextProvider
