import ContextProvider.Backend.Kind
import ContextProvider.Mapping.Basic
import ContextProvider.Text.Quoted

/-!
# Errors

A fetch error says why a live data source gave no data. A query error says why a queryContext
request failed: through the fault of its client, with a status in the four hundreds, or of the
server, with status 500. What the client is told of a server error depends on the backend's name
alone; the fetch error and its causes are kept for the log.
-/

namespace ContextProvider

/-- Why a live data source gave no data. -/
inductive FetchError where
  /-- The connection failed, with the texts of the failure and of its causes in turn. -/
  | transport (message : String) (causes : List String)
  | timeout
  | rateLimited
  | status (code : Nat) (message : String)
  | rejected (reason : String)
  | malformed (reason : String)
  | notConfigured (what : String)
  deriving DecidableEq

namespace FetchError

/-- The text of a fetch error. -/
def text : FetchError → String
  | transport message _ => "HTTP request failed: " ++ message
  | timeout => "Request timed out"
  | rateLimited => "Rate limited by upstream"
  | status code message => "Upstream returned status " ++ toString code ++ ": " ++ message
  | rejected reason => "Upstream rejected the request: " ++ reason
  | malformed reason => "Malformed upstream payload: " ++ reason
  | notConfigured what => "Upstream not configured: " ++ what

/-- The texts of the failures behind a fetch error, the nearest first. -/
def causes : FetchError → List String
  | transport message causes => message :: causes
  | _ => []

end FetchError

/-- Why a queryContext request failed. -/
inductive QueryError where
  | invalidMapping (reason : String)
  | duplicateAttribute (name : String)
  /-- The backend is named by its kind. Any word could stand for it, but backends use no other. -/
  | unsupportedShape (backend : BackendKind) (name : String) (shape : Shape)
  | fixtureNotFound (field : String) (selector : Option String)
  /-- The backend is named by its kind, as for a shape that it does not serve. -/
  | unavailable (backend : BackendKind) (cause : FetchError)
  | invalidRequest (reason : String)
  | inconsistent (reason : String)
  deriving DecidableEq

namespace QueryError

/-- The full text of an error. -/
def text : QueryError → String
  | invalidMapping reason => "Invalid mapping: " ++ reason
  | duplicateAttribute name => "Duplicate attribute: " ++ name
  | unsupportedShape backend name shape =>
    "Backend '" ++ backend.word ++ "' cannot serve " ++ shape.word ++ " attribute '" ++
      name ++ "'"
  | fixtureNotFound field selector =>
    "No fixture for field '" ++ field ++ "' (selector: " ++ Text.quotedOption selector ++ ")"
  | unavailable backend cause => "Upstream error from " ++ backend.word ++ ": " ++ cause.text
  | invalidRequest reason => "Invalid request: " ++ reason
  | inconsistent reason => "Internal error: " ++ reason

/-- The status code of an error. -/
def statusCode : QueryError → Nat
  | invalidMapping _ => 400
  | duplicateAttribute _ => 400
  | unsupportedShape .. => 400
  | invalidRequest _ => 400
  | fixtureNotFound .. => 404
  | unavailable .. => 500
  | inconsistent _ => 500

/-- The reason phrase that goes with the status code. -/
def reasonPhrase (error : QueryError) : String :=
  if error.statusCode = 400 then "Bad Request"
  else if error.statusCode = 404 then "No context element found"
  else "Internal Server Error"

/-- The client is at fault. -/
def isClientError (error : QueryError) : Bool :=
  400 ≤ error.statusCode && error.statusCode < 500

/-- What the client is told: its own error in full, of a server error only the backend. -/
def publicDetails : QueryError → String
  | unavailable backend _ => "Backend '" ++ backend.word ++ "' is unavailable"
  | inconsistent _ => "Backend returned an inconsistent result"
  | error => error.text

/-- The texts of the failures behind an error, the nearest first. -/
def causes : QueryError → List String
  | unavailable _ cause => cause.text :: cause.causes
  | _ => []

end QueryError

/-- A refused mapping as a query error. -/
def MappingFault.toQueryError : MappingFault → QueryError
  | .duplicate name => .duplicateAttribute name
  | fault => .invalidMapping fault.message

end ContextProvider
