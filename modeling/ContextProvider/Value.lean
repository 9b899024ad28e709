import ContextProvider.Json.Printer
import ContextProvider.Mapping.Basic

/-!
# Attribute values

A backend answers an attribute with a scalar or a list of JSON values. A JSON array counts as a
list and everything else as a scalar. A double that JSON cannot hold becomes null.
-/

namespace ContextProvider

open Number

/-- The value of an attribute. -/
inductive AttributeValue where
  | scalar (value : Json)
  | list (items : List Json)

namespace AttributeValue

/-- The shape of a value. -/
def shape : AttributeValue → Shape
  | scalar _ => .scalar
  | list _ => .list

/-- The attribute value that a JSON value stands for. -/
def ofJson : Json → AttributeValue
  | .array items => list items
  | value => scalar value

/-- The JSON value of an attribute value. -/
def toJson : AttributeValue → Json
  | scalar value => value
  | list items => .array items

/-- A numeric scalar; infinities and "not a number" become null. -/
def number : Double → AttributeValue
  | .finite x => scalar (.number (.double x))
  | _ => scalar .null

/-- The double of a scalar that is a number. -/
def toDouble? : AttributeValue → Option Double
  | scalar (.number n) => some n.toDouble
  | _ => none

/-- The items of a list. -/
def items? : AttributeValue → Option (List Json)
  | list items => some items
  | scalar _ => none

end AttributeValue

/-- What a backend answers for one attribute: the field it was read from, and its value. -/
structure RawValue where
  field : String
  value : AttributeValue

end ContextProvider
