import ContextProvider.Mapping.Reader
import ContextProvider.Proofs.Text.Separation
import Mathlib.Data.List.Forall2

/-!
# Units of a mapping text

A mapping text is read unit by unit. The parts of a unit are cut at its colons and trimmed, and
they say what its attribute is: the first part names it, a second one gives the field or asks for a
list. The relation between parts and attribute is stated on its own, without the order in which
faults are looked for. A mapping is read from a text exactly when its attributes are those that
the units describe, one by one; in particular it has them in the order of the text and under the
names of the units.
-/

namespace ContextProvider

open Text

namespace Mapping

/-- The parts of a unit, without the blanks around them. -/
def unitParts (unit : String) : List String :=
  (pieces ':' unit).map trim

/-- The name that a unit gives its attribute. -/
def unitName (unit : String) : String :=
  (unitParts unit).headD ""

/-- The units of a mapping text, each as its parts. -/
def units (text : String) : List (List String) :=
  (pieces ',' text).map unitParts

/-- What the parts of a unit say of its attribute. -/
inductive Describes (type : ValueType) : List String → AttributeSpec → Prop
  | name {name : String} : name ≠ "" →
      Describes type [name] ⟨name, name, type.defaultShape⟩
  | array {name : String} : name ≠ "" →
      Describes type [name, "array"] ⟨name, name, .list⟩
  | field {name field : String} : name ≠ "" → field ≠ "" → field ≠ "array" →
      Describes type [name, field] ⟨name, field, type.defaultShape⟩

theorem Describes.name_eq {type : ValueType} {parts : List String} {spec : AttributeSpec}
    (h : Describes type parts spec) : spec.name = parts.headD "" := by
  cases h <;> rfl

theorem Describes.named {type : ValueType} {parts : List String} {spec : AttributeSpec}
    (h : Describes type parts spec) : spec.name ≠ "" ∧ spec.field ≠ "" := by
  cases h with
  | name hname => exact ⟨hname, hname⟩
  | array hname => exact ⟨hname, hname⟩
  | field hname hfield _ => exact ⟨hname, hfield⟩

end Mapping

/-! ## Reading units -/

theorem ValueType.ofWord_eq_ok_iff {s : String} {type : ValueType} :
    ofWord s = .ok type ↔ trim s = type.word := by
  rw [ofWord]
  split
  · rename_i hnumber
    rw [hnumber]
    cases type <;> simp [word]
  · rename_i hnumber
    split
    · rename_i hlist
      rw [hlist]
      cases type <;> simp [word]
    · rename_i hlist
      cases type <;> simp [word, hnumber, hlist]

namespace AttributeSpec

/-- A unit is read as the attribute that its parts describe. -/
theorem ofUnit_eq_ok_iff {type : ValueType} {position : Nat} {unit : String}
    {spec : AttributeSpec} : ofUnit type position unit = .ok spec ↔
      Mapping.Describes type (Mapping.unitParts unit) spec := by
  have hparts : (pieces ':' (trim unit)).map trim = Mapping.unitParts unit :=
    map_trim_pieces_trim (by decide) unit
  have hblank : trim unit = "" → Mapping.unitParts unit = [""] := by
    intro h
    rw [← hparts, h]
    decide
  simp only [ofUnit, hparts]
  generalize Mapping.unitParts unit = parts at hblank
  constructor
  · intro h
    split at h
    · cases h
    · split at h
      · rename_i name
        split at h <;> cases h
        exact .name ‹_›
      · rename_i name target
        split_ifs at h with hname htarget harray <;> cases h
        · rw [harray]
          exact .array hname
        · exact .field hname htarget harray
      · cases h
  · intro h
    have hunit : trim unit ≠ "" := by
      intro hempty
      rw [hblank hempty] at h
      cases h with
      | name hname => exact hname rfl
    rw [if_neg hunit]
    cases h with
    | name hname => simp [hname]
    | array hname => simp [hname, arrayAlias]
    | field hname hfield harray => simp [hname, hfield, arrayAlias, harray]

theorem ofUnits_eq_ok_iff {type : ValueType} {position : Nat} {units : List String}
    {specs : List AttributeSpec} : ofUnits type position units = .ok specs ↔
      List.Forall₂ (Mapping.Describes type) (units.map Mapping.unitParts) specs := by
  induction units generalizing position specs with
  | nil =>
    rw [ofUnits, List.map_nil, List.forall₂_nil_left_iff]
    exact ⟨fun h ↦ (Except.ok.inj h).symm, fun h ↦ congrArg Except.ok h.symm⟩
  | cons unit rest ih =>
    rw [ofUnits, List.map_cons, List.forall₂_cons_left_iff]
    constructor
    · intro h
      split at h
      · cases h
      · rename_i spec hspec
        split at h
        · cases h
        · rename_i others hothers
          exact ⟨spec, others, ofUnit_eq_ok_iff.mp hspec, ih.mp hothers, (Except.ok.inj h).symm⟩
    · rintro ⟨spec, others, hspec, hothers, rfl⟩
      rw [ofUnit_eq_ok_iff.mpr hspec, ih.mpr hothers]

end AttributeSpec

/-! ## Reading mappings -/

/-- Named attributes whose names are all new have no fault. -/
theorem firstFault?_of_distinct {seen : List String} {position : Nat} {specs : List AttributeSpec}
    (hnamed : ∀ spec ∈ specs, spec.name ≠ "" ∧ spec.field ≠ "")
    (hdistinct : (specs.map AttributeSpec.name).Nodup)
    (hfresh : ∀ spec ∈ specs, spec.name ∉ seen) : firstFault? seen position specs = none := by
  induction specs generalizing seen position with
  | nil => rfl
  | cons spec rest ih =>
    rw [List.forall_mem_cons] at hnamed hfresh
    rw [List.map_cons, List.nodup_cons] at hdistinct
    rw [firstFault?, if_neg (not_or.mpr hnamed.1), if_neg hfresh.1]
    apply ih hnamed.2 hdistinct.2
    intro other hother hseen
    rcases List.mem_cons.mp hseen with hsame | hold
    · exact hdistinct.1 (hsame ▸ List.mem_map_of_mem hother)
    · exact hfresh.2 other hother hold

namespace Mapping

/-- A mapping is built from its attributes and from no others. -/
theorem ofSpecs_eq_ok_iff {specs : List AttributeSpec} {m : Mapping} :
    ofSpecs specs = .ok m ↔ m.specs = specs := by
  constructor
  · intro h
    unfold ofSpecs at h
    split at h
    · cases h
    · split at h <;> cases h
      rfl
  · rintro rfl
    have hfault : firstFault? [] 1 m.specs = none :=
      firstFault?_of_distinct m.named m.distinct fun _ _ ↦ List.not_mem_nil
    unfold ofSpecs
    rw [dif_neg m.nonempty]
    split
    · rename_i fault hsome
      cases hfault.symm.trans hsome
    · rfl

/-- A blank unit has one empty part. -/
theorem unitParts_of_isBlank {unit : String} (hblank : isBlank unit) : unitParts unit = [""] := by
  have hcolon : ':' ∉ unit.toList :=
    not_mem_of_blanks (by decide) (forall_isBlankChar_of_isBlank hblank)
  rw [unitParts, pieces_of_not_mem hcolon, List.map_singleton, trim_eq_empty_iff.mpr hblank]

theorem not_describes_of_isBlank {type : ValueType} {unit : String} {spec : AttributeSpec}
    (hblank : isBlank unit) : ¬ Describes type (unitParts unit) spec := by
  rw [unitParts_of_isBlank hblank]
  rintro (hname | _ | _)
  exact hname rfl

/-- A mapping is read from the texts whose units describe its attributes one by one. -/
theorem parse_eq_ok_iff {type text : String} {m : Mapping} : parse type text = .ok m ↔
    ∃ t : ValueType, trim type = t.word ∧ List.Forall₂ (Describes t) (units text) m.specs := by
  constructor
  · intro h
    unfold parse at h
    split at h
    · cases h
    · rename_i t htype
      split at h
      · cases h
      · split at h
        · cases h
        · rename_i specs hspecs
          rw [ofSpecs_eq_ok_iff.mp h]
          exact ⟨t, ValueType.ofWord_eq_ok_iff.mp htype, AttributeSpec.ofUnits_eq_ok_iff.mp hspecs⟩
  · rintro ⟨t, htype, hunits⟩
    have hblank : ¬ isBlank text := by
      intro hblank
      have hcomma : ',' ∉ text.toList :=
        not_mem_of_blanks (by decide) (forall_isBlankChar_of_isBlank hblank)
      rw [units, pieces_of_not_mem hcomma] at hunits
      obtain ⟨spec, _, hspec, -, -⟩ := List.forall₂_cons_left_iff.mp hunits
      exact not_describes_of_isBlank hblank hspec
    unfold parse
    rw [ValueType.ofWord_eq_ok_iff.mpr htype]
    simp only [if_neg hblank, AttributeSpec.ofUnits_eq_ok_iff.mpr hunits]
    exact ofSpecs_eq_ok_iff.mpr rfl

theorem names_of_describes {type : ValueType} {units : List (List String)}
    {specs : List AttributeSpec} (h : List.Forall₂ (Describes type) units specs) :
    specs.map AttributeSpec.name = units.map (·.headD "") := by
  induction h with
  | nil => rfl
  | cons hspec _ ih => rw [List.map_cons, List.map_cons, ih, hspec.name_eq]

theorem named_of_describes {type : ValueType} {units : List (List String)}
    {specs : List AttributeSpec} (h : List.Forall₂ (Describes type) units specs) :
    ∀ spec ∈ specs, spec.name ≠ "" ∧ spec.field ≠ "" := by
  induction h with
  | nil => exact List.forall_mem_nil _
  | cons hspec _ ih => exact List.forall_mem_cons.mpr ⟨hspec.named, ih⟩

/-- A text has at least one unit. -/
theorem ne_nil_of_describes {type : ValueType} {text : String} {specs : List AttributeSpec}
    (h : List.Forall₂ (Describes type) (units text) specs) : specs ≠ [] := by
  rintro rfl
  have hlength := h.length_eq
  simp [units, pieces, piecesChars_ne_nil] at hlength

/-- The attributes of a mapping are those of the units of its text, one by one. -/
theorem names_of_parse {type text : String} {m : Mapping} (h : parse type text = .ok m) :
    m.specs.map AttributeSpec.name = (pieces ',' text).map unitName := by
  obtain ⟨t, -, hunits⟩ := parse_eq_ok_iff.mp h
  rw [names_of_describes hunits, units, List.map_map]
  rfl

end Mapping

end ContextProvider
