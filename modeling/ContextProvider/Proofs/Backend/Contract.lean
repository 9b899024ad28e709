import ContextProvider.Backend.Observation
import ContextProvider.Backend.Random
import ContextProvider.Backend.Search
import ContextProvider.Backend.Static
import ContextProvider.Proofs.Assembly
import ContextProvider.Proofs.Backend.Live

/-!
# What the backends promise

The backends of this library answer every attribute of a mapping, in its place, from its field and
in its shape, or they fail as a whole. This holds whatever is drawn, whatever the fixtures are and
whatever the data sources answer. None of their failures is an inconsistency. Two of the kinds are
live: they serve one shape each and have a question of their own.
-/

namespace ContextProvider

/-! ## Random values -/

theorem AttributeValue.shape_number (x : Number.Double) : (number x).shape = .scalar := by
  unfold number
  split <;> rfl

namespace Random

theorem shape_value (draws : Draws) (position : Nat) (spec : AttributeSpec) :
    (value draws position spec).shape = spec.shape := by
  obtain ⟨name, field, shape⟩ := spec
  cases shape with
  | scalar => exact AttributeValue.shape_number _
  | list => rfl

/-- Random values never fail. -/
theorem fetch_result (draws : Draws) (m : Mapping) (selector : Selector) :
    ((backend draws).fetch m selector).result =
      .ok (m.specs.mapIdx fun position spec ↦ ⟨spec.field, value draws position spec⟩) := by
  change joinNow (m.specs.mapIdx fun position spec ↦ _) = _
  rw [List.mapIdx_eq_zipIdx_map, joinNow_map, List.mapIdx_eq_zipIdx_map]
  exact List.mapM_pure

theorem answeredBy {draws : Draws} {m : Mapping} {selector : Selector} {values : List RawValue}
    (h : ((backend draws).fetch m selector).result = .ok values) : m.AnsweredBy values := by
  rw [fetch_result] at h
  rw [← Except.ok.inj h]
  apply List.forall₂_iff_get.mpr
  refine ⟨List.length_mapIdx.symm, fun i hspec hraw ↦ ?_⟩
  simp only [List.get_eq_getElem, List.getElem_mapIdx]
  exact ⟨rfl, shape_value draws i _⟩

end Random

/-! ## Fixtures -/

namespace FixtureTable

theorem fetch_result (table : FixtureTable) (m : Mapping) (selector : Selector) :
    (table.backend.fetch m selector).result = m.specs.mapM fun spec ↦
      (table.lookup spec selector).map fun value ↦ ⟨spec.field, value⟩ :=
  joinNow_map _ _

theorem lookup_eq_ok_iff {table : FixtureTable} {spec : AttributeSpec} {selector : Selector}
    {value : AttributeValue} : table.lookup spec selector = .ok value ↔
      table.get? spec.field selector = some value ∧ value.shape = spec.shape := by
  unfold lookup
  cases table.get? spec.field selector with
  | none => simp
  | some found =>
    by_cases hshape : found.shape = spec.shape
    · simp only [if_pos hshape, Except.ok.injEq, Option.some_inj]
      exact ⟨fun h ↦ ⟨h, h ▸ hshape⟩, And.left⟩
    · simp only [if_neg hshape, reduceCtorEq, Option.some_inj, false_iff, not_and]
      rintro rfl
      exact hshape

theorem lookup_eq_error_iff {table : FixtureTable} {spec : AttributeSpec} {selector : Selector}
    {error : QueryError} : table.lookup spec selector = .error error ↔
      table.get? spec.field selector = none ∧
          error = .fixtureNotFound spec.field selector.value? ∨
        ∃ value, table.get? spec.field selector = some value ∧ value.shape ≠ spec.shape ∧
          error = .unsupportedShape .static spec.name spec.shape := by
  unfold lookup
  cases table.get? spec.field selector with
  | none => simp [eq_comm (b := error)]
  | some found =>
    by_cases hshape : found.shape = spec.shape <;> simp [hshape, eq_comm (b := error)]

theorem answeredBy {table : FixtureTable} {m : Mapping} {selector : Selector}
    {values : List RawValue} (h : (table.backend.fetch m selector).result = .ok values) :
    m.AnsweredBy values := by
  rw [fetch_result] at h
  apply Mapping.answeredBy_of_mapM h
  intro spec _ raw hraw
  obtain ⟨value, hvalue, rfl⟩ := map_eq_ok_iff.mp hraw
  exact ⟨rfl, (lookup_eq_ok_iff.mp hvalue).2⟩

end FixtureTable

/-! ## Live data sources -/

namespace Live

section

variable {α : Type} {kind : BackendKind} {shape : Shape} {question : String → Question}
  {source : String → Arrival α} {limit : Nat}
  {read : AttributeSpec → α → Except FetchError AttributeValue} {m : Mapping} {selector : Selector}

theorem answeredBy
    (hshape : ∀ spec answer value, read spec answer = .ok value → value.shape = shape)
    {values : List RawValue}
    (h : ((backend kind shape question source limit read).fetch m selector).result = .ok values) :
    m.AnsweredBy values := by
  have hturn := fetch_turn kind shape question source limit read m selector
  generalize (backend kind shape question source limit read).fetch m selector = traced at hturn h
  cases hturn with
  | misfit => cases h
  | missing => cases h
  | asked fit given =>
    obtain ⟨answer, hvalues⟩ := exists_of_values_eq_ok h
    apply Mapping.answeredBy_of_mapM hvalues
    intro spec hspec raw hraw
    obtain ⟨hread, hfield⟩ := value_eq_ok_iff.mp hraw
    exact ⟨hfield, (hshape spec answer raw.value hread).trans (fit spec hspec).symm⟩

end

end Live

theorem Search.shape_of_column {spec : AttributeSpec} {items : List Json.Fields}
    {value : AttributeValue} (h : column spec items = .ok value) : value.shape = .list := by
  obtain ⟨_, _, rfl⟩ := map_eq_ok_iff.mp h
  rfl

theorem Observation.shape_of_reading {spec : AttributeSpec} {observation : Json.Fields}
    {value : AttributeValue} (h : reading spec observation = .ok value) :
    value.shape = .scalar := by
  unfold reading at h
  split at h
  · cases h
  · split at h
    · cases h
      exact AttributeValue.shape_number _
    · cases h

/-! ## All of them -/

/-- What a live kind serves: the shape of its attributes, and the question that it makes of a
selector. -/
def BackendKind.live? : BackendKind → Option (Shape × (String → Question))
  | .random => none
  | .static => none
  | .twitter => some (.list, .search)
  | .weather => some (.scalar, .observation)

/-- A backend of this library: any draws, any fixtures, any source and time limit. -/
inductive Backend.Shipped : Backend → Prop
  | random (draws : Random.Draws) : Shipped (Random.backend draws)
  | static (table : FixtureTable) : Shipped table.backend
  | search (source : String → Arrival (List Json.Fields)) (limit : Nat) :
      Shipped (Search.backend source limit)
  | observation (source : String → Arrival Json.Fields) (limit : Nat) :
      Shipped (Observation.backend source limit)

namespace Backend.Shipped

variable {backend : Backend} {m : Mapping} {selector : Selector}

/-- Whatever values a backend comes up with, they answer the mapping. -/
theorem answeredBy (shipped : backend.Shipped) {values : List RawValue}
    (h : (backend.fetch m selector).result = .ok values) : m.AnsweredBy values := by
  cases shipped with
  | random draws => exact Random.answeredBy h
  | static table => exact FixtureTable.answeredBy h
  | search source limit => exact Live.answeredBy (fun _ _ _ ↦ Search.shape_of_column) h
  | observation source limit => exact Live.answeredBy (fun _ _ _ ↦ Observation.shape_of_reading) h

/-- A backend that fails does not blame the assembly. -/
theorem error_ne_inconsistent (shipped : backend.Shipped) {error : QueryError}
    (h : (backend.fetch m selector).result = .error error) (reason : String) :
    error ≠ .inconsistent reason := by
  cases shipped with
  | random draws => cases (Random.fetch_result draws m selector).symm.trans h
  | static table =>
    rw [FixtureTable.fetch_result] at h
    obtain ⟨_, _, _, _, _, hspec⟩ := mapM_eq_error_iff.mp h
    rcases FixtureTable.lookup_eq_error_iff.mp (map_eq_error_iff.mp hspec) with
      ⟨-, rfl⟩ | ⟨_, -, -, rfl⟩ <;> simp
  | search source limit =>
    rcases Live.result_eq_error h with ⟨_, _, rfl⟩ | ⟨_, rfl⟩ | ⟨_, rfl⟩ <;> simp
  | observation source limit =>
    rcases Live.result_eq_error h with ⟨_, _, rfl⟩ | ⟨_, rfl⟩ | ⟨_, rfl⟩ <;> simp

/-- A backend of a live kind asks its source; a backend of another kind asks nothing. -/
theorem exists_source (shipped : backend.Shipped) {shape : Shape} {question : String → Question}
    (hlive : backend.kind.live? = some (shape, question)) :
    ∃ (α : Type) (source : String → Arrival α) (limit : Nat)
      (read : AttributeSpec → α → Except FetchError AttributeValue),
      backend = Live.backend backend.kind shape question source limit read := by
  cases shipped with
  | random draws => cases hlive
  | static table => cases hlive
  | search source limit =>
    cases hlive
    exact ⟨_, source, limit, Search.column, rfl⟩
  | observation source limit =>
    cases hlive
    exact ⟨_, source, limit, Observation.reading, rfl⟩

theorem questions_of_not_live (shipped : backend.Shipped) (hlive : backend.kind.live? = none) :
    (backend.fetch m selector).questions = [] := by
  cases shipped with
  | random draws => rfl
  | static table => rfl
  | search source limit => cases hlive
  | observation source limit => cases hlive

end Backend.Shipped

end ContextProvider
