import ContextProvider.Json.Record

/-!
# Entities and requests

A queryContext request may name entities; the answer is about the first of them, and about an
entity of type `Thing` without identifier when it names none. Everything else in a request is
passed over.
-/

namespace ContextProvider

open Json

/-- The type of an entity that names none. -/
def defaultEntityType : String := "Thing"

/-- What a request is about. -/
structure Entity where
  type : String
  id : Option String
  deriving DecidableEq

namespace Entity

/-- The entity of a request that names none. -/
def unnamed : Entity := ⟨defaultEntityType, none⟩

/-- The written form of an entity. -/
def toJson (entity : Entity) : Json :=
  .object ([("type", .string entity.type)] ++ entity.id.toList.map fun id ↦ ("id", .string id))

/-- The entity that a tree describes. -/
def ofTree? (room : Nat) (tree : Tree) : Option Entity := do
  let record ← tree.record? ["type", "id"] room
  let type ← record.defaulted "type" defaultEntityType Tree.text?
  let id ← record.defaulted "id" none Tree.optionalText?
  return { type, id }

end Entity

/-- A queryContext request. -/
structure QueryRequest where
  entities : List Entity
  deriving DecidableEq

namespace QueryRequest

/-- The entity that the answer is about. -/
def entity (request : QueryRequest) : Entity :=
  request.entities.headD .unnamed

/-- The request that a tree describes. -/
def ofTree? (room : Nat) (tree : Tree) : Option QueryRequest := do
  let record ← tree.record? ["entities"] room
  let entities ← record.defaulted "entities" [] (Tree.list? (room - 1) Entity.ofTree?)
  return { entities }

/-- The request that a byte text describes. -/
def ofBytes? (bytes : List UInt8) : Option QueryRequest :=
  (Tree.ofBytes? bytes).bind (ofTree? maxNesting)

end QueryRequest

end ContextProvider
