import ContextProvider.Proofs.Mapping.Units

/-!
# The written form of a mapping

A mapping can be written down and read again without loss exactly when it can be expressed in the
grammar at all: its names and fields are words, an attribute that is read from a field of another
name has the shape of the type and not the alias that asks for a list, and a scalar under its own
name needs the type of numbers. Whatever is read can be expressed, because the parts of a unit are
words. Writing and reading therefore undo one another on the mappings that can be expressed and on
no others.
-/

namespace ContextProvider

open Text

/-- A text that can stand between the separators of a mapping text as it is. -/
structure Text.IsWord (s : String) : Prop where
  trimmed : trim s = s
  comma : ',' ∉ s.toList
  colon : ':' ∉ s.toList

/-- An attribute that the grammar can express under a type. -/
structure AttributeSpec.Expressible (spec : AttributeSpec) (type : ValueType) : Prop where
  name : IsWord spec.name
  field : IsWord spec.field
  aliased : spec.field ≠ spec.name → spec.shape = type.defaultShape ∧ spec.field ≠ "array"
  unaliased : spec.field = spec.name → spec.shape = .scalar → type = .number

/-- A mapping that the grammar can express under a type word. -/
def Mapping.Expressible (m : Mapping) (type : String) : Prop :=
  ∃ t : ValueType, trim type = t.word ∧ ∀ spec ∈ m.specs, spec.Expressible t

/-! ## What is read can be expressed -/

theorem isWord_of_mem_units {text part : String} {parts : List String}
    (hparts : parts ∈ Mapping.units text) (hpart : part ∈ parts) : IsWord part := by
  obtain ⟨unit, hunit, rfl⟩ := List.mem_map.mp hparts
  obtain ⟨piece, hpiece, rfl⟩ := List.mem_map.mp hpart
  have hchars : ∀ c ∈ (trim piece).toList, c ∈ unit.toList ∧ c ≠ ':' := by
    intro c hc
    rw [trim, String.toList_ofList] at hc
    exact mem_of_mem_pieces hpiece (mem_of_mem_trimChars hc)
  constructor
  · exact trim_trim piece
  · intro hcomma
    exact (mem_of_mem_pieces hunit (hchars _ hcomma).1).2 rfl
  · intro hcolon
    exact (hchars _ hcolon).2 rfl

theorem Mapping.Describes.expressible {type : ValueType} {parts : List String}
    {spec : AttributeSpec} (h : Describes type parts spec)
    (hwords : ∀ part ∈ parts, IsWord part) : spec.Expressible type := by
  have hdefault : type.defaultShape = .scalar → type = .number := by
    cases type <;> simp [ValueType.defaultShape]
  cases h with
  | @name name _ =>
    have hname : IsWord name := hwords name (by simp)
    exact ⟨hname, hname, fun haliased ↦ absurd rfl haliased, fun _ ↦ hdefault⟩
  | @array name _ =>
    have hname : IsWord name := hwords name (by simp)
    exact ⟨hname, hname, fun haliased ↦ absurd rfl haliased, fun _ hscalar ↦ by cases hscalar⟩
  | @field name field _ _ harray =>
    have hname : IsWord name := hwords name (by simp)
    have hfield : IsWord field := hwords field (by simp)
    exact ⟨hname, hfield, fun _ ↦ ⟨rfl, harray⟩, fun _ ↦ hdefault⟩

theorem Mapping.expressible_of_parse {type text : String} {m : Mapping}
    (h : parse type text = .ok m) : m.Expressible type := by
  obtain ⟨t, htype, hunits⟩ := parse_eq_ok_iff.mp h
  refine ⟨t, htype, fun spec hspec ↦ ?_⟩
  obtain ⟨i, hi, rfl⟩ := List.getElem_of_mem hspec
  have hlt : i < (units text).length := hunits.length_eq ▸ hi
  have hdescribes := (List.forall₂_iff_get.mp hunits).2 i hlt hi
  exact hdescribes.expressible fun part ↦ isWord_of_mem_units (List.getElem_mem hlt)

/-! ## What can be expressed is read -/

/-- The parts that an attribute is written with. -/
def AttributeSpec.writtenParts (spec : AttributeSpec) : List String :=
  if spec.field ≠ spec.name then [spec.name, spec.field]
  else if spec.shape = .list then [spec.name, "array"]
  else [spec.name]

namespace AttributeSpec

theorem text_eq_joined (spec : AttributeSpec) : spec.text = joined ":" spec.writtenParts := by
  unfold text writtenParts
  by_cases haliased : spec.field = spec.name
  · by_cases hlist : spec.shape = .list
    · simp [isAliased, haliased, hlist, joined, arrayAlias]
    · simp [isAliased, haliased, hlist, joined]
  · simp [isAliased, haliased, joined]

theorem Expressible.isWord {spec : AttributeSpec} {type : ValueType} (h : spec.Expressible type) :
    ∀ part ∈ spec.writtenParts, IsWord part := by
  have harray : IsWord "array" := ⟨by decide, by decide, by decide⟩
  unfold writtenParts
  split
  · simpa using ⟨h.name, h.field⟩
  · split
    · simpa using ⟨h.name, harray⟩
    · simpa using h.name

theorem Expressible.describes {spec : AttributeSpec} {type : ValueType}
    (h : spec.Expressible type) (hname : spec.name ≠ "") (hfield : spec.field ≠ "") :
    Mapping.Describes type spec.writtenParts spec := by
  obtain ⟨name, field, shape⟩ := spec
  unfold writtenParts
  split
  · rename_i haliased
    obtain ⟨hshape, harray⟩ := h.aliased haliased
    cases hshape
    exact .field hname hfield harray
  · rename_i hunaliased
    cases not_not.mp hunaliased
    split
    · rename_i hlist
      cases hlist
      exact .array hname
    · rename_i hlist
      have hscalar : shape = .scalar := by
        cases shape with
        | scalar => rfl
        | list => exact absurd rfl hlist
      cases h.unaliased rfl hscalar
      rw [hscalar]
      exact .name hname

theorem Expressible.comma_not_mem_text {spec : AttributeSpec} {type : ValueType}
    (h : spec.Expressible type) : ',' ∉ spec.text.toList := by
  rw [text_eq_joined]
  exact not_mem_joined (by decide) fun part hpart ↦ (h.isWord part hpart).comma

end AttributeSpec

/-- Words come back when they are joined by colons and read as a unit. -/
theorem Mapping.unitParts_joined {words : List String} (hne : words ≠ [])
    (hwords : ∀ word ∈ words, IsWord word) : unitParts (joined ":" words) = words := by
  have hpieces : pieces ':' (joined ":" words) = words :=
    pieces_joined hne fun word hword ↦ (hwords word hword).colon
  calc
    unitParts (joined ":" words) = words.map trim := by rw [unitParts, hpieces]
    _ = words.map id := List.map_congr_left fun word hword ↦ (hwords word hword).trimmed
    _ = words := List.map_id words

theorem Mapping.parse_text_of_expressible {type : String} {m : Mapping} (h : m.Expressible type) :
    parse type m.text = .ok m := by
  obtain ⟨t, htype, hspecs⟩ := h
  have hpieces : pieces ',' m.text = m.specs.map AttributeSpec.text := by
    apply pieces_joined
    · simpa using m.nonempty
    · simpa using fun spec hspec ↦ (hspecs spec hspec).comma_not_mem_text
  refine parse_eq_ok_iff.mpr ⟨t, htype, ?_⟩
  rw [units, hpieces, List.map_map, List.forall₂_map_left_iff, List.forall₂_same]
  intro spec hspec
  have hexpressible := hspecs spec hspec
  have hparts : unitParts spec.text = spec.writtenParts := by
    rw [spec.text_eq_joined]
    exact unitParts_joined (by unfold AttributeSpec.writtenParts; split_ifs <;> simp)
      hexpressible.isWord
  rw [Function.comp_apply, hparts]
  exact hexpressible.describes (m.named spec hspec).1 (m.named spec hspec).2

/-- The written form of a mapping is read as that mapping exactly when the grammar can express it.
Everything that is read can be expressed, so that it is read again from its written form. -/
theorem Mapping.parse_text_iff_expressible (type : String) (m : Mapping) :
    (parse type m.text = .ok m ↔ m.Expressible type) ∧
    ∀ text, parse type text = .ok m → m.Expressible type ∧ parse type m.text = parse type text := by
  refine ⟨⟨expressible_of_parse, parse_text_of_expressible⟩, fun text h ↦ ?_⟩
  have hexpressible := expressible_of_parse h
  exact ⟨hexpressible, (parse_text_of_expressible hexpressible).trans h.symm⟩

-- A field of the same name and the field `array` are not written back.
example : (Mapping.parse "number" "x:x, array:array, tweets : text").toOption.map Mapping.text =
    some "x,array:array,tweets:text" := by decide

end ContextProvider
