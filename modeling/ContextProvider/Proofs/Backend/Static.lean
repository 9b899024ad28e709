import ContextProvider.Proofs.Backend.Contract
import ContextProvider.Proofs.Backend.Fixture

/-!
# Answers from fixtures

Fixtures answer a mapping as one pass through it would, although the attributes are fetched side by
side: with every fixture as it is defined, or with the error of the first attribute that has none in
its shape. Which of the two errors it is depends on that attribute alone. The number of attributes
plays no part, because sub-fetches that all answer at once are joined alike below and above the
limit of the eager join.
-/

namespace ContextProvider.FixtureTable

section

variable (definitions : List FixtureDef) (selector : Selector) (spec : AttributeSpec)

/-- The value that is defined for the field of an attribute and the selector. -/
def IsFixture (value : AttributeValue) : Prop :=
  ∃ definition ∈ definitions,
    definition.key = (spec.field, selector.value?) ∧ definition.held = value

/-- An attribute is answered by its fixture, provided that has the attribute's shape. -/
def Answers (value : AttributeValue) : Prop :=
  IsFixture definitions selector spec value ∧ value.shape = spec.shape

/-- Why an attribute is not answered. -/
inductive Unanswered : QueryError → Prop
  | missing (missing : ∀ value, ¬ IsFixture definitions selector spec value) :
      Unanswered (.fixtureNotFound spec.field selector.value?)
  | misshapen {value : AttributeValue} (found : IsFixture definitions selector spec value)
      (misshapen : value.shape ≠ spec.shape) :
      Unanswered (.unsupportedShape .static spec.name spec.shape)

end

variable {definitions : List FixtureDef} {table : FixtureTable} {selector : Selector}

section

variable {spec : AttributeSpec}

theorem lookup_eq_ok_iff_answers (h : ofDefs definitions = .ok table) {value : AttributeValue} :
    table.lookup spec selector = .ok value ↔ Answers definitions selector spec value := by
  rw [lookup_eq_ok_iff, get?_eq_some_iff h]
  rfl

theorem lookup_eq_error_iff_unanswered (h : ofDefs definitions = .ok table) {error : QueryError} :
    table.lookup spec selector = .error error ↔
      Unanswered definitions selector spec error := by
  have hfound {value : AttributeValue} : table.get? spec.field selector = some value ↔
      IsFixture definitions selector spec value := get?_eq_some_iff h
  simp only [lookup_eq_error_iff, Option.eq_none_iff_forall_ne_some, ne_eq, hfound]
  constructor
  · rintro (⟨missing, rfl⟩ | ⟨value, found, misshapen, rfl⟩)
    · exact .missing missing
    · exact .misshapen found misshapen
  · rintro (missing | ⟨found, misshapen⟩)
    · exact .inl ⟨missing, rfl⟩
    · exact .inr ⟨_, found, misshapen, rfl⟩

/-- The value of one attribute is reported under its field. -/
theorem map_lookup_eq_ok_iff {raw : RawValue} :
    (table.lookup spec selector).map (RawValue.mk spec.field) = .ok raw ↔
      raw.field = spec.field ∧ table.lookup spec selector = .ok raw.value := by
  rw [map_eq_ok_iff]
  constructor
  · rintro ⟨value, hvalue, rfl⟩
    exact ⟨rfl, hvalue⟩
  · rintro ⟨hfield, hvalue⟩
    exact ⟨raw.value, hvalue, hfield ▸ rfl⟩

end

/-- A mapping is answered exactly if each of its attributes is, by the fixtures as they are defined
and in the order of the mapping. Otherwise the answer is the error of its first attribute that is
not answered. -/
theorem answers_verbatim_or_first_error (h : ofDefs definitions = .ok table) (m : Mapping)
    (selector : Selector) :
    ((∃ values, (table.backend.fetch m selector).result = .ok values) ↔
      ∀ spec ∈ m.specs, ∃ value, Answers definitions selector spec value) ∧
    (∀ values, (table.backend.fetch m selector).result = .ok values ↔
      List.Forall₂ (fun spec raw ↦
        raw.field = spec.field ∧ Answers definitions selector spec raw.value) m.specs values) ∧
    ∀ error, (table.backend.fetch m selector).result = .error error ↔
      ∃ before spec after, m.specs = before ++ spec :: after ∧
        (∀ other ∈ before, ∃ value, Answers definitions selector other value) ∧
        Unanswered definitions selector spec error := by
  rw [fetch_result]
  refine ⟨?_, fun values ↦ ?_, fun error ↦ ?_⟩
  · rw [exists_mapM_eq_ok_iff]
    simp only [exists_map_eq_ok_iff, lookup_eq_ok_iff_answers h]
  · rw [mapM_eq_ok_iff]
    simp only [map_lookup_eq_ok_iff, lookup_eq_ok_iff_answers h]
  · rw [mapM_eq_error_iff]
    simp only [exists_map_eq_ok_iff, lookup_eq_ok_iff_answers h, map_eq_error_iff,
      lookup_eq_error_iff_unanswered h]

/-- More attributes of one field than are joined eagerly. -/
def crowdedSpecs : List AttributeSpec :=
  (List.range 31).map fun i ↦ ⟨String.ofList (List.replicate (i + 1) 't'), "temperature", .scalar⟩

/-- The crowd in front of a list and of a field that no fixture has. -/
def crowdedMapping : Mapping where
  specs := crowdedSpecs ++ [⟨"x", "temperature", .list⟩, ⟨"y", "wind", .scalar⟩]
  nonempty := by simp
  named := by decide +kernel
  distinct := by decide +kernel

/-- Behind a crowd that is answered, the first of two attributes that are not gives the error. -/
theorem crowdedMapping_first_error : ∃ table, ofDefs sampleDefs = .ok table ∧
    (table.backend.fetch crowdedMapping (.ofText " ")).result =
      .error (.unsupportedShape .static "x" .list) := by
  have haccepted : ofDefs sampleDefs = .ok (holding sampleDefs) := rfl
  have hfixture : ∀ spec : AttributeSpec, spec.field = "temperature" →
      IsFixture sampleDefs (.ofText " ") spec (.scalar (.ofNat 21)) := by
    rintro ⟨name, field, shape⟩ rfl
    exact ⟨⟨"temperature", some " ", .ofNat 21⟩, .head _, rfl, rfl⟩
  have hcrowd : ∀ spec ∈ crowdedSpecs, ∃ value, Answers sampleDefs (.ofText " ") spec value := by
    intro spec hspec
    obtain ⟨i, -, rfl⟩ := List.mem_map.mp hspec
    exact ⟨_, hfixture _ rfl, rfl⟩
  refine ⟨_, haccepted, ?_⟩
  apply ((answers_verbatim_or_first_error haccepted crowdedMapping (.ofText " ")).2.2 _).mpr
  exact ⟨crowdedSpecs, ⟨"x", "temperature", .list⟩, _, rfl, hcrowd,
    .misshapen (hfixture _ rfl) (by decide)⟩

end ContextProvider.FixtureTable
