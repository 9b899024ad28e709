import ContextProvider.Backend.Live

/-!
# Lists from a search

The selector is a search term. A list attribute has one item per search result, in the order of
the results: the result's field of the attribute, or its text when the attribute has no alias and
the result lacks the field. An item is a string, a number or a boolean.
-/

namespace ContextProvider.Search

open Json

/-- The field that stands in for one that a result lacks. -/
def textField : String := "text"

/-- The field of a result that answers an attribute. -/
def selectedField (spec : AttributeSpec) (item : Fields) : Except FetchError Json :=
  match item.get? spec.field with
  | some value => .ok value
  | none =>
    let field := if spec.isAliased then spec.field else textField
    let missing := FetchError.malformed ("search item has no '" ++ field ++ "' field")
    if spec.isAliased then .error missing
    else match item.get? textField with
      | some value => .ok value
      | none => .error missing

/-- A string, a number or a boolean. -/
def isItem : Json → Bool
  | .string _ => true
  | .number _ => true
  | .bool _ => true
  | _ => false

/-- The item of an attribute for one result. -/
def extract (spec : AttributeSpec) (item : Fields) : Except FetchError Json :=
  match selectedField spec item with
  | .error error => .error error
  | .ok value =>
    if isItem value then .ok value
    else .error (.malformed ("search item field '" ++ spec.field ++ "' is not a scalar"))

/-- The list of an attribute over all results. -/
def column (spec : AttributeSpec) (items : List Fields) : Except FetchError AttributeValue :=
  (items.mapM (extract spec)).map .list

/-- The backend that answers from a search. -/
def backend (search : String → Arrival (List Fields)) (limit : Nat) : Backend :=
  Live.backend .twitter .list .search search limit column

end ContextProvider.Search
