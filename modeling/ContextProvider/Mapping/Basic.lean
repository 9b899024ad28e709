import ContextProvider.Text.Pieces

/-!
# Mappings

A mapping is the ordered list of attributes that one request asks for. Each attribute has the
name it is reported under, the field of the data it is read from, and a shape. A mapping is not
empty, no name or field in it is empty, and its names differ from one another.

An attribute is written as its name alone, as `name:field` when the two differ, and as
`name:array` when it is a list read from the field of its own name. A mapping is written as its
attributes between commas.
-/

namespace ContextProvider

/-- The shape of an attribute value: one scalar, or an ordered list of scalars. -/
inductive Shape where
  | scalar
  | list
  deriving DecidableEq

/-- The attribute type reported for a shape. -/
def Shape.attributeType : Shape → String
  | .scalar => "number"
  | .list => "array"

/-- The word for a shape. -/
def Shape.word : Shape → String
  | .scalar => "scalar"
  | .list => "list"

/-- The alias that makes an attribute a list of the field of its own name. -/
def arrayAlias : String := "array"

/-- One attribute of a mapping. -/
structure AttributeSpec where
  name : String
  field : String
  shape : Shape
  deriving DecidableEq

namespace AttributeSpec

/-- The scalar read from the field of its own name. -/
def scalar (name : String) : AttributeSpec := ⟨name, name, .scalar⟩

/-- The list read from the field of its own name. -/
def list (name : String) : AttributeSpec := ⟨name, name, .list⟩

/-- The attribute is read from a field of another name. -/
def isAliased (spec : AttributeSpec) : Bool :=
  spec.field != spec.name

/-- The written form of an attribute. -/
def text (spec : AttributeSpec) : String :=
  if spec.isAliased then spec.name ++ ":" ++ spec.field
  else if spec.shape = .list then spec.name ++ ":" ++ arrayAlias
  else spec.name

end AttributeSpec

/-- Why a mapping is refused. Positions count from one. -/
inductive MappingFault where
  | unknownType (word : String)
  | blank
  | emptyUnit (position : Nat)
  | manyColons (unit : String)
  | noName (unit : String)
  | emptyAlias (unit : String)
  | noAttributes
  | emptyName (position : Nat)
  | duplicate (name : String)
  deriving DecidableEq

/-- The text of a fault; a repeated name is its own text. -/
def MappingFault.message : MappingFault → String
  | .unknownType word => "unknown type '" ++ word ++ "', expected 'number' or 'list'"
  | .blank => "mapping is empty"
  | .emptyUnit position => "mapping unit " ++ toString position ++ " is empty"
  | .manyColons unit => "mapping unit '" ++ unit ++ "' has more than one ':'"
  | .noName unit => "mapping unit '" ++ unit ++ "' has no attribute name"
  | .emptyAlias unit => "mapping unit '" ++ unit ++ "' has an empty alias"
  | .noAttributes => "mapping contains no attributes"
  | .emptyName position => "attribute " ++ toString position ++ " has an empty name"
  | .duplicate name => name

/-- The first attribute that has an empty name or field, or a name among those already seen. -/
def firstFault? (seen : List String) (position : Nat) : List AttributeSpec → Option MappingFault
  | [] => none
  | spec :: rest =>
    if spec.name = "" ∨ spec.field = "" then some (.emptyName position)
    else if spec.name ∈ seen then some (.duplicate spec.name)
    else firstFault? (spec.name :: seen) (position + 1) rest

theorem firstFault?_eq_none {seen : List String} {position : Nat} {specs : List AttributeSpec}
    (h : firstFault? seen position specs = none) :
    (∀ spec ∈ specs, spec.name ≠ "" ∧ spec.field ≠ "") ∧
      (specs.map AttributeSpec.name).Nodup ∧ ∀ spec ∈ specs, spec.name ∉ seen := by
  induction specs generalizing seen position with
  | nil => simp
  | cons spec rest ih =>
    unfold firstFault? at h
    split at h
    · cases h
    · split at h
      · cases h
      · rename_i hnamed hfresh
        obtain ⟨named, distinct, fresh⟩ := ih h
        refine ⟨?_, ?_, ?_⟩
        · simp only [List.mem_cons, forall_eq_or_imp]
          exact ⟨not_or.mp hnamed, named⟩
        · simp only [List.map_cons, List.nodup_cons, List.mem_map, not_exists, not_and]
          refine ⟨fun other hother hsame ↦ ?_, distinct⟩
          exact fresh other hother (by simp [hsame])
        · simp only [List.mem_cons, forall_eq_or_imp]
          exact ⟨hfresh, fun other hother hseen ↦ fresh other hother (by simp [hseen])⟩

/-- The ordered attributes of one request. -/
structure Mapping where
  specs : List AttributeSpec
  nonempty : specs ≠ []
  named : ∀ spec ∈ specs, spec.name ≠ "" ∧ spec.field ≠ ""
  distinct : (specs.map AttributeSpec.name).Nodup
  deriving DecidableEq

namespace Mapping

/-- The mapping of the given attributes, or the first fault in their order. -/
def ofSpecs (specs : List AttributeSpec) : Except MappingFault Mapping :=
  if hempty : specs = [] then .error .noAttributes
  else match h : firstFault? [] 1 specs with
    | some fault => .error fault
    | none =>
      .ok {
        specs
        nonempty := hempty
        named := (firstFault?_eq_none h).1
        distinct := (firstFault?_eq_none h).2.1 }

/-- The number of attributes. -/
def size (mapping : Mapping) : Nat := mapping.specs.length

/-- The written form of a mapping. -/
def text (mapping : Mapping) : String :=
  Text.joined "," (mapping.specs.map AttributeSpec.text)

end Mapping

end ContextProvider
