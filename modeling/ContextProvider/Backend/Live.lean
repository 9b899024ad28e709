import ContextProvider.Backend.Basic

/-!
# Live data sources

A live backend asks its data source once per request, and only after the request has passed two
checks: every attribute has the one shape that the backend serves, and there is a selector to ask
with. An answer that is not there within the time limit is a timeout; one that arrives at the
limit is in time.
-/

namespace ContextProvider

/-- An answer that arrives after some milliseconds, or never. -/
inductive Arrival (α : Type) where
  | after (milliseconds : Nat) (answer : Except FetchError α)
  | never

/-- An answer that is there at once. -/
def Arrival.now (answer : Except FetchError α) : Arrival α := .after 0 answer

/-- The answer within a time limit. -/
def Arrival.within (limit : Nat) : Arrival α → Except FetchError α
  | .after milliseconds answer => if milliseconds ≤ limit then answer else .error .timeout
  | .never => .error .timeout

namespace Live

/-- The time limit in milliseconds unless another one is set. -/
def defaultTimeout : Nat := 10000

/-- The first attribute of another shape is an error. -/
def requireShape (kind : BackendKind) (shape : Shape) (mapping : Mapping) :
    Except QueryError Unit :=
  match mapping.specs.find? fun spec ↦ spec.shape != shape with
  | some spec => .error (.unsupportedShape kind spec.name spec.shape)
  | none => .ok ()

/-- The text of a selector that has to be there. -/
def requireSelector (kind : BackendKind) (selector : Selector) : Except QueryError String :=
  match selector.value? with
  | some text => .ok text
  | none => .error (.invalidRequest ("The " ++ kind.word ++ " backend requires a queryString"))

/-- The answer of a data source to a text, with the question that this is to it. -/
def ask (question : String → Question) (source : String → Arrival α) (text : String) :
    Traced (Arrival α) :=
  ⟨source text, [question text]⟩

/-- The backend that serves one shape, asks its data source with the selector and reads every
attribute from the answer. -/
def backend (kind : BackendKind) (shape : Shape) (question : String → Question)
    (source : String → Arrival α) (limit : Nat)
    (read : AttributeSpec → α → Except FetchError AttributeValue) : Backend where
  kind := kind
  fetch mapping selector :=
    match requireShape kind shape mapping with
    | .error error => .silent (.error error)
    | .ok () =>
      match requireSelector kind selector with
      | .error error => .silent (.error error)
      | .ok text =>
        (ask question source text).map fun arrival ↦
          match arrival.within limit with
          | .error error => .error (.unavailable kind error)
          | .ok answer => mapping.specs.mapM fun spec ↦
            match read spec answer with
            | .error error => .error (.unavailable kind error)
            | .ok value => .ok ⟨spec.field, value⟩

end Live

end ContextProvider
