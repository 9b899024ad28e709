import ContextProvider.Entity
import ContextProvider.Json.Printer

/-!
# Envelopes

The answer to a queryContext request is an envelope of context responses, each with the element
it is about and a status. The status code is a text of digits. An identifier and details that
are absent are left out of the written form.
-/

namespace ContextProvider

/-- One reported attribute. -/
structure ContextAttribute where
  name : String
  type : String
  value : Json

/-- An entity with its attributes. -/
structure ContextElement where
  type : String
  isPattern : String
  id : Option String
  attributes : List ContextAttribute

/-- The outcome of a request. -/
structure StatusCode where
  code : String
  reasonPhrase : String
  details : Option String
  deriving DecidableEq

/-- An element with the outcome for it. -/
structure ContextResponse where
  element : ContextElement
  status : StatusCode

/-- The answer to a queryContext request. -/
structure Envelope where
  responses : List ContextResponse

/-- The pattern flag of an element that names one entity. -/
def notPattern : String := "false"

/-- The element of an entity with the given attributes. -/
def Entity.element (entity : Entity) (attributes : List ContextAttribute) : ContextElement where
  type := entity.type
  isPattern := notPattern
  id := entity.id
  attributes := attributes

/-- The status of a success. -/
def StatusCode.ok : StatusCode := ⟨"200", "OK", none⟩

/-- The number below 65536 that digits with an optional plus sign spell. -/
def statusNumber? (code : String) : Option Nat :=
  let digits := match code.toList with
    | '+' :: rest => rest
    | rest => rest
  if digits.isEmpty || !digits.all Number.isDigit then none
  else
    let n := Number.naturalOf digits
    if n < 65536 then some n else none

namespace Envelope

/-- The envelope of one element and its status. -/
def single (element : ContextElement) (status : StatusCode) : Envelope where
  responses := [⟨element, status⟩]

/-- The numeric status of the first response; 0 if there is none or its code is no number. -/
def statusNumber (envelope : Envelope) : Nat :=
  (envelope.responses.head?.bind fun response ↦ statusNumber? response.status.code).getD 0

/-- The attributes of the first response. -/
def attributes (envelope : Envelope) : List ContextAttribute :=
  (envelope.responses.head?.map fun response ↦ response.element.attributes).getD []

end Envelope

end ContextProvider
