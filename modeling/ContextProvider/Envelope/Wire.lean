import ContextProvider.Envelope.Basic

/-!
# The written form of envelopes

Members are written in a fixed order. Reading takes them in any order, passes over members it
does not know, and takes arrays in place of objects as every record does.
-/

namespace ContextProvider

open Json

/-- A member that is left out when there is no text for it. -/
def optionalMember (name : String) (text : Option String) : List (String × Json) :=
  text.toList.map fun s ↦ (name, .string s)

namespace ContextAttribute

/-- The written form of an attribute. -/
def toJson (reported : ContextAttribute) : Json :=
  .object [("name", .string reported.name), ("type", .string reported.type),
    ("value", reported.value)]

/-- The attribute that a tree describes. -/
def ofTree? (room : Nat) (tree : Tree) : Option ContextAttribute := do
  let record ← tree.record? ["name", "type", "value"] room
  let name ← record.required "name" Tree.text?
  let type ← record.required "type" Tree.text?
  let value ← record.required "value" (Tree.toJson? (room - 1))
  return { name, type, value }

end ContextAttribute

namespace ContextElement

/-- The written form of an element. -/
def toJson (element : ContextElement) : Json :=
  .object ([("type", .string element.type), ("isPattern", .string element.isPattern)] ++
    optionalMember "id" element.id ++
    [("attributes", .array (element.attributes.map ContextAttribute.toJson))])

/-- The element that a tree describes. -/
def ofTree? (room : Nat) (tree : Tree) : Option ContextElement := do
  let record ← tree.record? ["type", "isPattern", "id", "attributes"] room
  let type ← record.required "type" Tree.text?
  let isPattern ← record.defaulted "isPattern" notPattern Tree.text?
  let id ← record.defaulted "id" none Tree.optionalText?
  let attributes ← record.required "attributes" (Tree.list? (room - 1) ContextAttribute.ofTree?)
  return { type, isPattern, id, attributes }

end ContextElement

namespace StatusCode

/-- The written form of a status. -/
def toJson (status : StatusCode) : Json :=
  .object ([("code", .string status.code), ("reasonPhrase", .string status.reasonPhrase)] ++
    optionalMember "details" status.details)

/-- The status that a tree describes. -/
def ofTree? (room : Nat) (tree : Tree) : Option StatusCode := do
  let record ← tree.record? ["code", "reasonPhrase", "details"] room
  let code ← record.required "code" Tree.text?
  let reasonPhrase ← record.required "reasonPhrase" Tree.text?
  let details ← record.defaulted "details" none Tree.optionalText?
  return { code, reasonPhrase, details }

end StatusCode

namespace ContextResponse

/-- The written form of a response. -/
def toJson (response : ContextResponse) : Json :=
  .object [("contextElement", response.element.toJson), ("statusCode", response.status.toJson)]

/-- The response that a tree describes. -/
def ofTree? (room : Nat) (tree : Tree) : Option ContextResponse := do
  let record ← tree.record? ["contextElement", "statusCode"] room
  let element ← record.required "contextElement" (ContextElement.ofTree? (room - 1))
  let status ← record.required "statusCode" (StatusCode.ofTree? (room - 1))
  return { element, status }

end ContextResponse

namespace Envelope

/-- The written form of an envelope. -/
def toJson (envelope : Envelope) : Json :=
  .object [("contextResponses", .array (envelope.responses.map ContextResponse.toJson))]

/-- The text of an envelope. -/
def text (envelope : Envelope) : String :=
  envelope.toJson.text

/-- The envelope that a tree describes. -/
def ofTree? (room : Nat) (tree : Tree) : Option Envelope := do
  let record ← tree.record? ["contextResponses"] room
  let responses ←
    record.required "contextResponses" (Tree.list? (room - 1) ContextResponse.ofTree?)
  return { responses }

/-- The envelope that a byte text describes. -/
def ofBytes? (bytes : List UInt8) : Option Envelope :=
  (Tree.ofBytes? bytes).bind (ofTree? maxNesting)

end Envelope

end ContextProvider
