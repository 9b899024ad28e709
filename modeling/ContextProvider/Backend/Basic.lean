import ContextProvider.Backend.Kind
import ContextProvider.Mapping.Selector
import ContextProvider.QueryError
import ContextProvider.Value

/-!
# Backends

A backend of a kind answers a mapping and a selector with one value per attribute, in the order
of the mapping, or with the error of the whole request; there are no partial answers. What a
live data source was asked on the way is part of the result.
-/

namespace ContextProvider

/-- A question to a live data source. -/
inductive Question where
  | search (term : String)
  | observation (place : String)
  deriving DecidableEq

/-- A result together with the questions that were asked for it. -/
structure Traced (α : Type) where
  result : α
  questions : List Question

/-- A result that no data source was asked for. -/
def Traced.silent (result : α) : Traced α := ⟨result, []⟩

/-- A result that is made from another one, without a further question. -/
def Traced.map (f : α → β) (traced : Traced α) : Traced β :=
  ⟨f traced.result, traced.questions⟩

/-- A backend of a kind. -/
structure Backend where
  kind : BackendKind
  fetch : Mapping → Selector → Traced (Except QueryError (List RawValue))

end ContextProvider
