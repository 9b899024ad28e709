import ContextProvider.Backend.Basic
import ContextProvider.Json.Record
import ContextProvider.Text.Blank

/-!
# Fixtures

A fixture gives the value of a field, either for one selector or for requests without one. A
value is a number or a list of numbers and strings. A table of fixtures has no blank field and no
two fixtures for the same field and selector, blank selectors counting as none.
-/

namespace ContextProvider

open Json

/-- A fixture as it is defined. -/
structure FixtureDef where
  field : String
  selector : Option String
  value : Json

/-- Why a list of definitions is refused. -/
inductive FixtureError where
  | emptyField
  | invalidValue (field : String) (value : Json)
  | duplicate (field : String) (selector : Option String)

/-- The text of an error. -/
def FixtureError.message : FixtureError → String
  | .emptyField => "Fixture with an empty field name"
  | .invalidValue field value =>
    "Fixture '" ++ field ++ "' has an unsupported value: " ++ value.text
  | .duplicate field selector =>
    "Fixture '" ++ field ++ "' (selector: " ++ Text.quotedOption selector ++ ") is defined twice"

/-- A number. -/
def Json.isNumber : Json → Bool
  | .number _ => true
  | _ => false

/-- A string. -/
def Json.isString : Json → Bool
  | .string _ => true
  | _ => false

/-- The attribute value of a fixture, if the definition's value is one. -/
def fixtureValue? : Json → Option AttributeValue
  | .number n => some (.scalar (.number n))
  | .array items =>
    if items.all fun item ↦ item.isNumber || item.isString then some (.list items) else none
  | _ => none

namespace FixtureDef

/-- The selector that a definition is for. -/
def effectiveSelector (definition : FixtureDef) : Selector :=
  .ofText? definition.selector

/-- The definition that a tree describes. -/
def ofTree? (room : Nat) (tree : Tree) : Option FixtureDef := do
  let record ← tree.record? ["field", "selector", "value"] room
  let field ← record.required "field" Tree.text?
  let selector ← record.defaulted "selector" none Tree.optionalText?
  let value ← record.required "value" (Tree.toJson? (room - 1))
  return { field, selector, value }

end FixtureDef

/-- What a fixture is found by. -/
abbrev FixtureKey := String × Option String

/-- A table of fixtures. -/
structure FixtureTable where
  entries : List (FixtureKey × AttributeValue)

namespace FixtureTable

/-- The value under a key. -/
def find? (table : FixtureTable) (key : FixtureKey) : Option AttributeValue :=
  (table.entries.find? fun entry ↦ entry.1 == key).map (·.2)

/-- The value of a field for a selector. -/
def get? (table : FixtureTable) (field : String) (selector : Selector) : Option AttributeValue :=
  table.find? (field, selector.value?)

/-- The number of fixtures. -/
def size (table : FixtureTable) : Nat := table.entries.length

/-- The table with one more definition. -/
def add (table : FixtureTable) (definition : FixtureDef) : Except FixtureError FixtureTable :=
  if Text.isBlank definition.field then .error .emptyField
  else match fixtureValue? definition.value with
    | none => .error (.invalidValue definition.field definition.value)
    | some value =>
      let key : FixtureKey := (definition.field, definition.effectiveSelector.value?)
      if (table.find? key).isSome then .error (.duplicate key.1 key.2)
      else .ok ⟨table.entries ++ [(key, value)]⟩

/-- The table of a list of definitions, or the error of the first one that cannot be added. -/
def ofDefs (definitions : List FixtureDef) : Except FixtureError FixtureTable :=
  definitions.foldlM add ⟨[]⟩

/-- A decimal number, its digits and the number of places behind the point. -/
def decimal (digits places : Nat) : Json :=
  match (Number.Decimal.mk false digits (-(places : Int))).toDouble with
  | .finite x => .number (.double x)
  | _ => .null

/-- The fixtures that serve every preset route, and two places. -/
def builtinDefs : List FixtureDef := [
  ⟨"temperature", none, decimal 215 1⟩,
  ⟨"relativeHumidity", none, .ofNat 45⟩,
  ⟨"tweets", none, .array [
    .string "FIWARE context broker is up and running",
    .string "Smart city pilot publishes new open data sets",
    .string "Reading room sensors through an NGSI proxy"]⟩,
  ⟨"temperature", some "Germany/Berlin", decimal 182 1⟩,
  ⟨"relativeHumidity", some "Germany/Berlin", .ofNat 71⟩,
  ⟨"temperature", some "Spain/Madrid", decimal 279 1⟩,
  ⟨"relativeHumidity", some "Spain/Madrid", .ofNat 33⟩]

/-- The table that is used when none is configured. -/
def builtin : FixtureTable :=
  match ofDefs builtinDefs with
  | .ok table => table
  | .error _ => ⟨[]⟩

end FixtureTable

end ContextProvider
