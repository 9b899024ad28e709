import ContextProvider.Proofs.Backend.Contract

/-!
# Fetching attribute by attribute

Under one selector, fixtures and live data sources give each attribute a value of its own or none,
whatever else is asked for. A mapping has values exactly if each of its attributes has one, and they
are the same in every company: the check of shapes in front, the answer that all attributes share,
and the traversal that stops at the first failure leave no trace in them. Random values are drawn by
position and do not have this property.
-/

namespace ContextProvider

/-- Under this selector the backend gives each attribute its value, or none, and the values of a
mapping are those of its attributes. -/
def Backend.AnswersEach (backend : Backend) (selector : Selector)
    (value? : AttributeSpec → Option RawValue) : Prop :=
  ∀ (m : Mapping) (values : List RawValue), (backend.fetch m selector).result = .ok values ↔
    List.Forall₂ (fun spec raw ↦ value? spec = some raw) m.specs values

/-- A mapping has an attribute, so that none of its values is a value too few. -/
theorem Mapping.exists_of_forall₂ {m : Mapping} {values : List RawValue}
    {R : AttributeSpec → RawValue → Prop} (h : List.Forall₂ R m.specs values) :
    ∃ spec raw, R spec raw := by
  obtain ⟨spec, hspec⟩ := List.exists_mem_of_ne_nil _ m.nonempty
  obtain ⟨raw, -, hraw⟩ := exists_mem_of_forall₂ h hspec
  exact ⟨spec, raw, hraw⟩

theorem toOption_eq_some_iff {ε α : Type*} {x : Except ε α} {a : α} :
    x.toOption = some a ↔ x = .ok a := by
  cases x <;> simp [Except.toOption]

theorem FixtureTable.answersEach (table : FixtureTable) (selector : Selector) :
    table.backend.AnswersEach selector fun spec ↦
      ((table.lookup spec selector).map (RawValue.mk spec.field)).toOption := by
  intro m values
  simp only [fetch_result, mapM_eq_ok_iff, toOption_eq_some_iff]

namespace Live

variable {α : Type} (kind : BackendKind) (shape : Shape) (question : String → Question)
  (source : String → Arrival α) (limit : Nat)
  (read : AttributeSpec → α → Except FetchError AttributeValue) (selector : Selector)

/-- The value of an attribute that is asked for alone: there is one if it has the shape that the
backend serves, there is a selector to ask with, and it can be read from the answer in time. -/
def value? (spec : AttributeSpec) : Option RawValue :=
  if spec.shape = shape then do
    let text ← selector.value?
    let answer ← ((source text).within limit).toOption
    (value kind read answer spec).toOption
  else none

theorem value?_eq_some_iff {spec : AttributeSpec} {raw : RawValue} :
    value? kind shape source limit read selector spec = some raw ↔
      spec.shape = shape ∧ ∃ text answer, selector.value? = some text ∧
        (source text).within limit = .ok answer ∧ value kind read answer spec = .ok raw := by
  unfold value?
  split
  · rename_i hshape
    simp [hshape, Option.bind_eq_some_iff, toOption_eq_some_iff]
  · rename_i hshape
    simp [hshape]

/-- A live backend answers each attribute from the one answer of its source. -/
theorem answersEach : (backend kind shape question source limit read).AnswersEach selector
    (value? kind shape source limit read selector) := by
  intro m values
  have hturn := fetch_turn kind shape question source limit read m selector
  generalize (backend kind shape question source limit read).fetch m selector = traced at hturn
  simp only [value?_eq_some_iff]
  cases hturn with
  | @misfit before after spec specs _ misfit =>
    refine iff_of_false (by simp [Traced.silent]) fun h ↦ ?_
    have hspec : spec ∈ m.specs := by simp [specs]
    obtain ⟨_, -, hfit, -⟩ := exists_mem_of_forall₂ h hspec
    exact misfit hfit
  | missing _ missing =>
    refine iff_of_false (by simp [Traced.silent]) fun h ↦ ?_
    obtain ⟨_, _, -, text, _, htext, -⟩ := m.exists_of_forall₂ h
    cases missing.symm.trans htext
  | @asked text fit given =>
    simp only [given, Option.some.injEq, exists_and_left, exists_eq_left']
    cases harrived : (source text).within limit with
    | error error =>
      refine iff_of_false (by simp [Live.values]) fun h ↦ ?_
      obtain ⟨_, _, -, _, hanswer, -⟩ := m.exists_of_forall₂ h
      cases hanswer
    | ok answer =>
      simp only [Live.values, mapM_eq_ok_iff, Except.ok.injEq, exists_eq_left']
      have hfit := List.forall₂_and_left (R := fun spec raw ↦ value kind read answer spec = .ok raw)
        (p := fun spec ↦ spec.shape = shape) m.specs values
      exact ⟨fun h ↦ hfit.mpr ⟨fit, h⟩, fun h ↦ (hfit.mp h).2⟩

end Live

/-- Every backend of this library answers each attribute for itself, unless it draws at random. -/
theorem Backend.Shipped.exists_answersEach {backend : Backend} (shipped : backend.Shipped)
    (hkind : backend.kind ≠ .random) (selector : Selector) :
    ∃ value?, backend.AnswersEach selector value? := by
  cases shipped with
  | random draws => exact absurd rfl hkind
  | static table => exact ⟨_, table.answersEach selector⟩
  | search source limit => exact ⟨_, Live.answersEach _ _ _ source limit _ selector⟩
  | observation source limit => exact ⟨_, Live.answersEach _ _ _ source limit _ selector⟩

end ContextProvider
