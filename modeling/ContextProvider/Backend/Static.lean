import ContextProvider.Backend.Fixture
import ContextProvider.Backend.Join

/-!
# Values from fixtures

Each attribute is answered by the fixture of its field for the selector of the request, provided
the fixture has the attribute's shape.
-/

namespace ContextProvider.FixtureTable

/-- The value of an attribute. -/
def lookup (table : FixtureTable) (spec : AttributeSpec) (selector : Selector) :
    Except QueryError AttributeValue :=
  match table.get? spec.field selector with
  | none => .error (.fixtureNotFound spec.field selector.value?)
  | some value =>
    if value.shape = spec.shape then .ok value
    else .error (.unsupportedShape .static spec.name spec.shape)

/-- The backend that answers from a table. -/
def backend (table : FixtureTable) : Backend where
  kind := .static
  fetch mapping selector := .silent <| joinNow <| mapping.specs.map fun spec ↦
    (table.lookup spec selector).map fun value ↦ ⟨spec.field, value⟩

end ContextProvider.FixtureTable
