import ContextProvider.Proofs.Mapping.Grammar
import ContextProvider.QueryError

/-!
# Refused mappings

A text can have many faults and is refused for one. The type word is looked at first, then whether
the text says anything, then its units in their order, and the names last, when every unit is known
to be well formed. So a repeated name is reported only where nothing else is wrong, and it is the
first that repeats an earlier one.

The ways to be refused are stated with the error that reports each of them. They exclude one
another, and together with the grammar they leave no text out.
-/

namespace ContextProvider

open Text

namespace Mapping

/-! ## Faults of a unit -/

/-- What is wrong with a unit, as it is reported; of several faults the first one here counts. -/
inductive UnitFault (position : Nat) (unit : String) : String → Prop
  | empty (blank : isBlank unit) :
      UnitFault position unit ("mapping unit " ++ toString position ++ " is empty")
  | manyColons (many : 1 < unit.toList.count ':') :
      UnitFault position unit ("mapping unit '" ++ trim unit ++ "' has more than one ':'")
  | noName (filled : ¬ isBlank unit) (few : unit.toList.count ':' ≤ 1)
      (nameless : unitName unit = "") :
      UnitFault position unit ("mapping unit '" ++ trim unit ++ "' has no attribute name")
  | emptyAlias {name : String} (parts : unitParts unit = [name, ""]) (named : name ≠ "") :
      UnitFault position unit ("mapping unit '" ++ trim unit ++ "' has an empty alias")

theorem length_unitParts (unit : String) :
    (unitParts unit).length = unit.toList.count ':' + 1 := by
  rw [unitParts, List.length_map, pieces, List.length_map, length_piecesChars]

theorem unitParts_of_few {unit : String} (h : unit.toList.count ':' ≤ 1) :
    (∃ name, unitParts unit = [name]) ∨ ∃ name target, unitParts unit = [name, target] := by
  have hlength := length_unitParts unit
  rcases Nat.le_one_iff_eq_zero_or_eq_one.mp h with hnone | hone
  · exact .inl (List.length_eq_one_iff.mp (by omega))
  · exact .inr (List.length_eq_two.mp (by omega))

theorem unitParts_of_many {unit : String} (h : 1 < unit.toList.count ':') :
    ∃ first second third rest, unitParts unit = first :: second :: third :: rest := by
  have hlength := length_unitParts unit
  rcases hparts : unitParts unit with _ | ⟨first, _ | ⟨second, _ | ⟨third, rest⟩⟩⟩
  all_goals simp only [hparts, List.length_cons, List.length_nil] at hlength
  · omega
  · omega
  · omega
  · exact ⟨first, second, third, rest, rfl⟩

/-- A unit is well formed or has a fault. -/
theorem isUnit_or_fault (position : Nat) (unit : String) :
    IsUnit (unitParts unit) ∨ ∃ reason, UnitFault position unit reason := by
  by_cases hblank : isBlank unit
  · exact .inr ⟨_, .empty hblank⟩
  by_cases hmany : 1 < unit.toList.count ':'
  · exact .inr ⟨_, .manyColons hmany⟩
  by_cases hnameless : unitName unit = ""
  · exact .inr ⟨_, .noName hblank (Nat.not_lt.mp hmany) hnameless⟩
  rcases unitParts_of_few (Nat.not_lt.mp hmany) with ⟨name, hparts⟩ | ⟨name, target, hparts⟩
  · rw [unitName, hparts, List.headD_cons] at hnameless
    exact .inl (hparts ▸ ⟨.inl rfl, by simpa using hnameless⟩)
  · rw [unitName, hparts, List.headD_cons] at hnameless
    by_cases htarget : target = ""
    · exact .inr ⟨_, .emptyAlias (htarget ▸ hparts) hnameless⟩
    · exact .inl (hparts ▸ ⟨.inr rfl, by simpa using ⟨hnameless, htarget⟩⟩)

end Mapping

namespace AttributeSpec

open Mapping

variable {type : ValueType} {position : Nat} {unit : String}

theorem ofUnit_of_unitFault (type : ValueType) {reason : String}
    (h : UnitFault position unit reason) :
    ∃ fault, ofUnit type position unit = .error fault ∧
      fault.toQueryError = .invalidMapping reason := by
  have hparts : (pieces ':' (trim unit)).map trim = unitParts unit :=
    map_trim_pieces_trim (by decide) unit
  have hfilled : unitParts unit ≠ [""] → trim unit ≠ "" := by
    intro hne hempty
    exact hne (unitParts_of_isBlank (trim_eq_empty_iff.mp hempty))
  simp only [ofUnit, hparts]
  cases h with
  | empty blank =>
    rw [if_pos (trim_eq_empty_iff.mpr blank)]
    exact ⟨_, rfl, rfl⟩
  | manyColons many =>
    obtain ⟨first, second, third, rest, hunit⟩ := unitParts_of_many many
    rw [if_neg (hfilled (by simp [hunit])), hunit]
    exact ⟨_, rfl, rfl⟩
  | noName filled few nameless =>
    rw [if_neg (mt trim_eq_empty_iff.mp filled)]
    rcases unitParts_of_few few with ⟨name, hunit⟩ | ⟨name, target, hunit⟩
    all_goals
      rw [unitName, hunit, List.headD_cons] at nameless
      simp only [hunit, if_pos nameless]
      exact ⟨_, rfl, rfl⟩
  | emptyAlias parts named =>
    rw [if_neg (hfilled (by simp [parts])), parts]
    simp only [if_neg named, if_true]
    exact ⟨_, rfl, rfl⟩

/-- A unit is refused for its first fault. -/
theorem exists_unitFault_of_ofUnit {fault : MappingFault}
    (h : ofUnit type position unit = .error fault) :
    ∃ reason, UnitFault position unit reason ∧ fault.toQueryError = .invalidMapping reason := by
  rcases isUnit_or_fault position unit with hformed | ⟨reason, hreason⟩
  · obtain ⟨spec, hspec⟩ := (isUnit_iff type).mp hformed
    cases h.symm.trans (ofUnit_eq_ok_iff.mpr hspec)
  · obtain ⟨other, hother, htext⟩ := ofUnit_of_unitFault type hreason
    cases h.symm.trans hother
    exact ⟨reason, hreason, htext⟩

theorem exists_ofUnit_eq_ok_iff (type : ValueType) (position : Nat) :
    (∃ spec, ofUnit type position unit = .ok spec) ↔ IsUnit (unitParts unit) := by
  simp only [ofUnit_eq_ok_iff, isUnit_iff type]

/-- The units are read up to the first that is malformed. -/
theorem ofUnits_eq_error_iff {units : List String} {fault : MappingFault} :
    ofUnits type position units = .error fault ↔
      ∃ before unit after, units = before ++ unit :: after ∧
        (∀ other ∈ before, IsUnit (unitParts other)) ∧
        ofUnit type (position + before.length) unit = .error fault := by
  induction units generalizing position with
  | nil => simp [ofUnits]
  | cons first rest ih =>
    cases hfirst : ofUnit type position first with
    | error other =>
      have hmalformed : ¬ IsUnit (unitParts first) := by
        rw [← exists_ofUnit_eq_ok_iff type position, hfirst]
        rintro ⟨spec, ⟨⟩⟩
      simp only [ofUnits, hfirst]
      constructor
      · intro h
        cases h
        exact ⟨[], first, rest, rfl, List.forall_mem_nil _, hfirst⟩
      · rintro ⟨before, unit, after, hunits, hbefore, hunit⟩
        cases before with
        | nil =>
          cases hunits
          cases hfirst.symm.trans hunit
          rfl
        | cons _ before =>
          cases hunits
          exact absurd (hbefore first List.mem_cons_self) hmalformed
    | ok spec =>
      have hformed : IsUnit (unitParts first) :=
        (exists_ofUnit_eq_ok_iff type position).mp ⟨spec, hfirst⟩
      have hrest : ofUnits type position (first :: rest) = .error fault ↔
          ofUnits type (position + 1) rest = .error fault := by
        simp only [ofUnits, hfirst]
        cases ofUnits type (position + 1) rest <;> simp
      rw [hrest, ih]
      constructor
      · rintro ⟨before, unit, after, rfl, hbefore, hunit⟩
        refine ⟨first :: before, unit, after, rfl, List.forall_mem_cons.mpr ⟨hformed, hbefore⟩, ?_⟩
        rwa [List.length_cons, Nat.add_comm before.length, ← Nat.add_assoc]
      · rintro ⟨before, unit, after, hunits, hbefore, hunit⟩
        cases before with
        | nil =>
          cases hunits
          cases hfirst.symm.trans hunit
        | cons _ before =>
          cases hunits
          rw [List.length_cons, Nat.add_comm before.length, ← Nat.add_assoc] at hunit
          exact ⟨before, unit, after, rfl, (List.forall_mem_cons.mp hbefore).2, hunit⟩

end AttributeSpec

/-! ## Repeated names -/

/-- Among named attributes only a name can be at fault: the first that was seen before. -/
theorem firstFault?_eq_some_iff {seen : List String} {position : Nat} {specs : List AttributeSpec}
    {fault : MappingFault} (hnamed : ∀ spec ∈ specs, spec.name ≠ "" ∧ spec.field ≠ "")
    (hseen : seen.Nodup) : firstFault? seen position specs = some fault ↔
      ∃ before name after, specs.map AttributeSpec.name = before ++ name :: after ∧
        (before ++ seen).Nodup ∧ name ∈ before ++ seen ∧ fault = .duplicate name := by
  induction specs generalizing seen position with
  | nil => simp [firstFault?]
  | cons spec rest ih =>
    rw [List.forall_mem_cons] at hnamed
    rw [firstFault?, if_neg (not_or.mpr hnamed.1), List.map_cons]
    by_cases hknown : spec.name ∈ seen
    · rw [if_pos hknown, Option.some_inj]
      constructor
      · rintro rfl
        exact ⟨[], spec.name, _, rfl, hseen, hknown, rfl⟩
      · rintro ⟨before, name, after, hnames, hdistinct, -, rfl⟩
        cases before with
        | nil => rw [(List.cons.inj hnames).1]
        | cons first before =>
          rw [← (List.cons.inj hnames).1, List.cons_append, List.nodup_cons] at hdistinct
          exact absurd (List.mem_append_right before hknown) hdistinct.1
    · rw [if_neg hknown, ih hnamed.2 (List.nodup_cons.mpr ⟨hknown, hseen⟩)]
      -- A name moves from the front of the rest to those seen before it.
      have hmove (before : List String) :
          (before ++ spec.name :: seen).Perm (spec.name :: before ++ seen) := List.perm_middle
      constructor
      · rintro ⟨before, name, after, hnames, hdistinct, hrepeated, rfl⟩
        exact ⟨spec.name :: before, name, after, congrArg (spec.name :: ·) hnames,
          (hmove before).nodup_iff.mp hdistinct, (hmove before).mem_iff.mp hrepeated, rfl⟩
      · rintro ⟨before, name, after, hnames, hdistinct, hrepeated, rfl⟩
        cases before with
        | nil =>
          rw [← (List.cons.inj hnames).1] at hrepeated
          exact absurd hrepeated hknown
        | cons first before =>
          obtain ⟨rfl, hrest⟩ := List.cons.inj hnames
          exact ⟨before, name, after, hrest, (hmove before).nodup_iff.mpr hdistinct,
            (hmove before).mem_iff.mpr hrepeated, rfl⟩

namespace Mapping

theorem ofSpecs_eq_error_iff {specs : List AttributeSpec} {fault : MappingFault}
    (hne : specs ≠ []) (hnamed : ∀ spec ∈ specs, spec.name ≠ "" ∧ spec.field ≠ "") :
    ofSpecs specs = .error fault ↔
      ∃ before name after, specs.map AttributeSpec.name = before ++ name :: after ∧
        before.Nodup ∧ name ∈ before ∧ fault = .duplicate name := by
  have hfirst : ofSpecs specs = .error fault ↔ firstFault? [] 1 specs = some fault := by
    unfold ofSpecs
    rw [dif_neg hne]
    split <;> simp_all
  rw [hfirst, firstFault?_eq_some_iff hnamed .nil]
  simp only [List.append_nil]

/-! ## Refusals -/

/-- The ways in which a text is refused under a type word, each with its error. -/
inductive Refused (type text : String) : QueryError → Prop
  | type (number : trim type ≠ "number") (list : trim type ≠ "list") :
      Refused type text (.invalidMapping
        ("unknown type '" ++ trim type ++ "', expected 'number' or 'list'"))
  | blank (known : trim type = "number" ∨ trim type = "list") (blank : isBlank text) :
      Refused type text (.invalidMapping "mapping is empty")
  | unit {before after : List String} {unit reason : String}
      (known : trim type = "number" ∨ trim type = "list") (filled : ¬ isBlank text)
      (units : pieces ',' text = before ++ unit :: after)
      (formed : ∀ other ∈ before, IsUnit (unitParts other))
      (fault : UnitFault (before.length + 1) unit reason) :
      Refused type text (.invalidMapping reason)
  | name {before after : List String} {name : String}
      (known : trim type = "number" ∨ trim type = "list")
      (formed : ∀ unit ∈ pieces ',' text, IsUnit (unitParts unit))
      (names : (pieces ',' text).map unitName = before ++ name :: after)
      (distinct : before.Nodup) (repeated : name ∈ before) :
      Refused type text (.duplicateAttribute name)

variable {type text : String}

theorem exists_word_iff :
    (∃ t : ValueType, trim type = t.word) ↔ trim type = "number" ∨ trim type = "list" := by
  constructor
  · rintro ⟨t, ht⟩
    cases t with
    | number => exact .inl ht
    | list => exact .inr ht
  · rintro (hnumber | hlist)
    · exact ⟨.number, hnumber⟩
    · exact ⟨.list, hlist⟩

theorem ofWord_eq_error_iff {fault : MappingFault} : ValueType.ofWord type = .error fault ↔
    trim type ≠ "number" ∧ trim type ≠ "list" ∧ fault = .unknownType (trim type) := by
  unfold ValueType.ofWord
  split_ifs with hnumber hlist
  · simp [hnumber]
  · simp [hlist]
  · simp [hnumber, hlist, eq_comm]

/-- A text that is not blank is refused for its units, or for the names of the attributes that they
describe. -/
theorem parse_of_filled {t : ValueType} (known : trim type = t.word) (filled : ¬ isBlank text) :
    parse type text = (AttributeSpec.ofUnits t 1 (pieces ',' text)).bind ofSpecs := by
  rw [parse, ValueType.ofWord_eq_ok_iff.mpr known]
  simp only [if_neg filled]
  cases AttributeSpec.ofUnits t 1 (pieces ',' text) <;> rfl

/-- Where all units are well formed, their names decide. -/
theorem parse_of_formed {t : ValueType} (known : trim type = t.word)
    (formed : ∀ unit ∈ pieces ',' text, IsUnit (unitParts unit)) {fault : MappingFault} :
    parse type text = .error fault ↔
      ∃ before name after, (pieces ',' text).map unitName = before ++ name :: after ∧
        before.Nodup ∧ name ∈ before ∧ fault = .duplicate name := by
  have hunits : ∀ parts ∈ units text, IsUnit parts := List.forall_mem_map.mpr formed
  obtain ⟨specs, hspecs⟩ := (exists_describes_iff t).mpr hunits
  have hfilled : ¬ isBlank text := by
    intro hblank
    have hcomma : ',' ∉ text.toList :=
      not_mem_of_blanks (by decide) (forall_isBlankChar_of_isBlank hblank)
    have hparts := formed text (by simp [pieces_of_not_mem hcomma])
    rw [unitParts_of_isBlank hblank] at hparts
    exact hparts.2 "" List.mem_cons_self rfl
  have hnames : specs.map AttributeSpec.name = (pieces ',' text).map unitName := by
    rw [names_of_describes hspecs, units, List.map_map]
    rfl
  rw [parse_of_filled known hfilled, AttributeSpec.ofUnits_eq_ok_iff.mpr hspecs, ← hnames]
  exact ofSpecs_eq_error_iff (ne_nil_of_describes hspecs) (named_of_describes hspecs)

theorem exists_error_of_refused {error : QueryError} (h : Refused type text error) :
    ∃ fault, parse type text = .error fault ∧ fault.toQueryError = error := by
  cases h with
  | type number list =>
    rw [parse, ofWord_eq_error_iff.mpr ⟨number, list, rfl⟩]
    exact ⟨_, rfl, rfl⟩
  | blank known blank =>
    obtain ⟨t, ht⟩ := exists_word_iff.mpr known
    rw [parse, ValueType.ofWord_eq_ok_iff.mpr ht]
    simp only [if_pos blank]
    exact ⟨_, rfl, rfl⟩
  | @unit before after unit reason known filled units formed fault =>
    obtain ⟨t, ht⟩ := exists_word_iff.mpr known
    obtain ⟨found, hfound, htext⟩ := AttributeSpec.ofUnit_of_unitFault t fault
    rw [Nat.add_comm] at hfound
    have hunits : AttributeSpec.ofUnits t 1 (pieces ',' text) = .error found :=
      AttributeSpec.ofUnits_eq_error_iff.mpr ⟨before, unit, after, units, formed, hfound⟩
    rw [parse_of_filled ht filled, hunits]
    exact ⟨found, rfl, htext⟩
  | name known formed names distinct repeated =>
    obtain ⟨t, ht⟩ := exists_word_iff.mpr known
    exact ⟨_, (parse_of_formed ht formed).mpr ⟨_, _, _, names, distinct, repeated, rfl⟩, rfl⟩

theorem refused_of_error {fault : MappingFault} (h : parse type text = .error fault) :
    Refused type text fault.toQueryError := by
  by_cases hknown : trim type = "number" ∨ trim type = "list"
  · obtain ⟨t, ht⟩ := exists_word_iff.mpr hknown
    by_cases hblank : isBlank text
    · rw [parse, ValueType.ofWord_eq_ok_iff.mpr ht] at h
      simp only [if_pos hblank] at h
      cases h
      exact .blank hknown hblank
    cases hunits : AttributeSpec.ofUnits t 1 (pieces ',' text) with
    | error found =>
      rw [parse_of_filled ht hblank, hunits] at h
      cases h
      obtain ⟨before, unit, after, hpieces, hformed, hunit⟩ :=
        AttributeSpec.ofUnits_eq_error_iff.mp hunits
      rw [Nat.add_comm] at hunit
      obtain ⟨reason, hreason, htext⟩ := AttributeSpec.exists_unitFault_of_ofUnit hunit
      rw [htext]
      exact .unit hknown hblank hpieces hformed hreason
    | ok specs =>
      have hdescribed := AttributeSpec.ofUnits_eq_ok_iff.mp hunits
      have hformed : ∀ unit ∈ pieces ',' text, IsUnit (unitParts unit) :=
        List.forall_mem_map.mp ((exists_describes_iff t).mp ⟨specs, hdescribed⟩)
      obtain ⟨before, name, after, hnames, hdistinct, hrepeated, rfl⟩ :=
        (parse_of_formed ht hformed).mp h
      exact .name hknown hformed hnames hdistinct hrepeated
  · rw [not_or] at hknown
    rw [parse, ofWord_eq_error_iff.mpr ⟨hknown.1, hknown.2, rfl⟩] at h
    cases h
    exact .type hknown.1 hknown.2

theorem mapError_parse_eq_error_iff {error : QueryError} :
    (parse type text).mapError MappingFault.toQueryError = .error error ↔
      Refused type text error := by
  constructor
  · intro h
    cases hparse : parse type text with
    | error fault =>
      rw [hparse] at h
      cases h
      exact refused_of_error hparse
    | ok m =>
      rw [hparse] at h
      cases h
  · intro h
    obtain ⟨fault, hparse, rfl⟩ := exists_error_of_refused h
    rw [hparse]
    rfl

/-- A text is refused for one reason, the first in this order: its type word, a text that is blank,
the first of its units that is malformed, and, if there is none, the first name that repeats one
before it. -/
theorem first_fault_reported (type text : String) :
    (∀ error, (parse type text).mapError MappingFault.toQueryError = .error error ↔
      Refused type text error) ∧
    (∀ name, (parse type text).mapError MappingFault.toQueryError =
        .error (.duplicateAttribute name) ↔
      (trim type = "number" ∨ trim type = "list") ∧
        (∀ unit ∈ pieces ',' text, IsUnit (unitParts unit)) ∧
        ∃ before after, (pieces ',' text).map unitName = before ++ name :: after ∧
          before.Nodup ∧ name ∈ before) ∧
    ∀ position unit, (∃ reason, UnitFault position unit reason) ↔ ¬ IsUnit (unitParts unit) := by
  refine ⟨fun error ↦ mapError_parse_eq_error_iff, fun name ↦ ?_, fun position unit ↦ ?_⟩
  · rw [mapError_parse_eq_error_iff]
    constructor
    · rintro (_ | _ | _ | ⟨known, formed, names, distinct, repeated⟩)
      exact ⟨known, formed, _, _, names, distinct, repeated⟩
    · rintro ⟨known, formed, before, after, names, distinct, repeated⟩
      exact .name known formed names distinct repeated
  · constructor
    · rintro ⟨reason, hreason⟩ hformed
      obtain ⟨fault, hfault, -⟩ := AttributeSpec.ofUnit_of_unitFault .number hreason
      obtain ⟨spec, hspec⟩ := (AttributeSpec.exists_ofUnit_eq_ok_iff _ _).mpr hformed
      cases hfault.symm.trans hspec
    · exact (isUnit_or_fault position unit).resolve_left

-- The third unit is the first that is malformed, and the repeated name in front of it is not told.
example : (parse "list" "a, a , b::c ,, :").mapError MappingFault.toQueryError =
    .error (.invalidMapping "mapping unit 'b::c' has more than one ':'") := by decide

end Mapping

end ContextProvider
