import ContextProvider.Mapping.Basic
import ContextProvider.Text.Blank

/-!
# Reading a mapping

A mapping text is read together with a type word, `number` or `list`, which gives the shape of
the attributes that do not choose one. Commas separate the units of a mapping and a colon
separates the name of a unit from its alias; blanks around each of them do not count. The alias
`array` makes the attribute a list of the field of its own name, any other alias is the field.

Faults are found in this order: the type word, a blank mapping, the first malformed unit, and
then the first repeated name.
-/

namespace ContextProvider

open Text

/-- The type word of a request. -/
inductive ValueType where
  | number
  | list
  deriving DecidableEq

namespace ValueType

/-- The shape of the attributes that do not choose their own. -/
def defaultShape : ValueType → Shape
  | .number => .scalar
  | .list => .list

/-- The word for a type. -/
def word : ValueType → String
  | .number => "number"
  | .list => "list"

/-- The type that a word names, blanks around it aside. -/
def ofWord (s : String) : Except MappingFault ValueType :=
  if trim s = "number" then .ok .number
  else if trim s = "list" then .ok .list
  else .error (.unknownType (trim s))

end ValueType

/-- The attribute of one unit of a mapping text; the position is that of the unit. -/
def AttributeSpec.ofUnit (type : ValueType) (position : Nat) (unit : String) :
    Except MappingFault AttributeSpec :=
  let unit := trim unit
  if unit = "" then .error (.emptyUnit position)
  else match (pieces ':' unit).map trim with
    | [name] =>
      if name = "" then .error (.noName unit) else .ok ⟨name, name, type.defaultShape⟩
    | [name, target] =>
      if name = "" then .error (.noName unit)
      else if target = "" then .error (.emptyAlias unit)
      else if target = arrayAlias then .ok ⟨name, name, .list⟩
      else .ok ⟨name, target, type.defaultShape⟩
    | _ => .error (.manyColons unit)

/-- The attributes of the units of a mapping text, up to the first malformed one. -/
def AttributeSpec.ofUnits (type : ValueType) (position : Nat) :
    List String → Except MappingFault (List AttributeSpec)
  | [] => .ok []
  | unit :: rest =>
    match AttributeSpec.ofUnit type position unit with
    | .error fault => .error fault
    | .ok spec =>
      match AttributeSpec.ofUnits type (position + 1) rest with
      | .error fault => .error fault
      | .ok specs => .ok (spec :: specs)

/-- The mapping that a type word and a mapping text describe. -/
def Mapping.parse (type mapping : String) : Except MappingFault Mapping :=
  match ValueType.ofWord type with
  | .error fault => .error fault
  | .ok type =>
    if isBlank mapping then .error .blank
    else match AttributeSpec.ofUnits type 1 (pieces ',' mapping) with
      | .error fault => .error fault
      | .ok specs => Mapping.ofSpecs specs

end ContextProvider
