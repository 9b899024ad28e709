import ContextProvider.Assembly
import ContextProvider.Backend.Basic
import ContextProvider.Mapping.Reader

/-!
# Answering a query

A request is answered in this order: its body is read, then its mapping, then the backend is
looked up, asked, and its values are assembled. The first failure is the answer, and nothing
after it happens. A body of white space alone stands for a request that names no entity.
-/

namespace ContextProvider

/-- The backends that answer requests; of two of one kind the later one counts. -/
structure Registry where
  backends : List Backend

namespace Registry

/-- The backend of a kind. -/
def find? (registry : Registry) (kind : BackendKind) : Option Backend :=
  registry.backends.reverse.find? fun backend ↦ backend.kind == kind

/-- The kinds that have a backend, in the order of the routes. -/
def kinds (registry : Registry) : List BackendKind :=
  BackendKind.all.filter fun kind ↦ (registry.find? kind).isSome

/-- The backend of a kind, or the error that there is none. -/
def get (registry : Registry) (kind : BackendKind) : Except QueryError Backend :=
  match registry.find? kind with
  | some backend => .ok backend
  | none => .error (.inconsistent ("No backend registered for '" ++ kind.word ++ "'"))

end Registry

/-- White space in a body: space, tab, line feed, form feed or carriage return. -/
def isBodyBlank (b : UInt8) : Bool :=
  b == 0x20 || b == 0x09 || b == 0x0A || b == 0x0C || b == 0x0D

/-- What stands in front of the reason why a body is refused. -/
def bodyRefused : String := "queryContext body is not valid: "

/-- Why a body is refused. What a reader of JSON says about the place and the kind of its first
fault is not part of this development; one reason stands for all of them. -/
def bodyFault : String := "expected a request object"

/-- The entity that a body is about. -/
def readEntity (body : List UInt8) : Except QueryError Entity :=
  if body.all isBodyBlank then .ok .unnamed
  else match QueryRequest.ofBytes? body with
    | some request => .ok request.entity
    | none => .error (.invalidRequest (bodyRefused ++ bodyFault))

/-- The answer to a request, with the questions asked for it. -/
def queryContext (registry : Registry) (kind : BackendKind) (type mapping : String)
    (selector : Selector) (body : List UInt8) : Traced Answer :=
  match readEntity body with
  | .error error => .silent (.failure .unnamed error)
  | .ok entity =>
    match Mapping.parse type mapping with
    | .error fault => .silent (.failure entity fault.toQueryError)
    | .ok mapping =>
      match registry.get kind with
      | .error error => .silent (.failure entity error)
      | .ok backend =>
        let fetched := backend.fetch mapping selector
        ⟨assemble entity mapping fetched.result, fetched.questions⟩

end ContextProvider
