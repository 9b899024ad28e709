import ContextProvider.Backend.Live
import ContextProvider.Proofs.Backend.Traversal

/-!
# Fetching from a live data source

A live backend refuses an attribute of another shape before anything else, then a missing selector,
and only then asks its source. Once it has asked, the outcome is a value for every attribute or the
error that the backend is unavailable. The latter has four origins: an error of the source, an
answer that is late, one that never comes, and one that some attribute cannot be read from.
-/

namespace ContextProvider.Live

section

variable {kind : BackendKind} {shape : Shape} {m : Mapping}

/-! ## The checks in front of the source -/

theorem requireShape_of_fit (h : ∀ spec ∈ m.specs, spec.shape = shape) :
    requireShape kind shape m = .ok () := by
  have hnone : (m.specs.find? fun spec ↦ spec.shape != shape) = none := by
    rw [List.find?_eq_none]
    intro spec hspec
    simp [h spec hspec]
  simp only [requireShape, hnone]

theorem requireShape_of_misfit {before after : List AttributeSpec} {spec : AttributeSpec}
    (hspecs : m.specs = before ++ spec :: after) (hbefore : ∀ other ∈ before, other.shape = shape)
    (hspec : spec.shape ≠ shape) :
    requireShape kind shape m = .error (.unsupportedShape kind spec.name spec.shape) := by
  have hsome : (m.specs.find? fun spec ↦ spec.shape != shape) = some spec := by
    rw [List.find?_eq_some_iff_append]
    refine ⟨bne_iff_ne.mpr hspec, before, after, hspecs, fun other hother ↦ ?_⟩
    simp [hbefore other hother]
  simp only [requireShape, hsome]

/-- Either every attribute has the shape, or there is a first one that has not. -/
theorem fit_or_misfit (shape : Shape) (m : Mapping) :
    (∀ spec ∈ m.specs, spec.shape = shape) ∨ ∃ before spec after,
      m.specs = before ++ spec :: after ∧ (∀ other ∈ before, other.shape = shape) ∧
        spec.shape ≠ shape := by
  cases hfind : m.specs.find? fun spec ↦ spec.shape != shape with
  | none =>
    rw [List.find?_eq_none] at hfind
    exact .inl fun spec hspec ↦ by simpa using hfind spec hspec
  | some spec =>
    rw [List.find?_eq_some_iff_append] at hfind
    obtain ⟨hspec, before, after, hspecs, hbefore⟩ := hfind
    exact .inr ⟨before, spec, after, hspecs, fun other hother ↦ by simpa using hbefore other hother,
      bne_iff_ne.mp hspec⟩

/-! ## The outcome after the source was asked -/

variable {α : Type} {question : String → Question} {source : String → Arrival α} {limit : Nat}
  {read : AttributeSpec → α → Except FetchError AttributeValue} {selector : Selector}
  {text : String}

/-- The value of one attribute, any failure being that of the backend. -/
def value (kind : BackendKind) (read : AttributeSpec → α → Except FetchError AttributeValue)
    (answer : α) (spec : AttributeSpec) : Except QueryError RawValue :=
  match read spec answer with
  | .error error => .error (.unavailable kind error)
  | .ok value => .ok ⟨spec.field, value⟩

/-- The values of all attributes, any failure being that of the backend. -/
def values (kind : BackendKind) (read : AttributeSpec → α → Except FetchError AttributeValue)
    (specs : List AttributeSpec) (arrived : Except FetchError α) :
    Except QueryError (List RawValue) :=
  match arrived with
  | .error error => .error (.unavailable kind error)
  | .ok answer => specs.mapM (value kind read answer)

section

variable (kind : BackendKind) (shape : Shape) (question : String → Question)
  (source : String → Arrival α) (limit : Nat)
  (read : AttributeSpec → α → Except FetchError AttributeValue) (m : Mapping) (selector : Selector)

/-- The ways in which a live backend deals with a request: it refuses an attribute, it misses a
selector, or it asks its source once, with the selector as it is. -/
inductive Turn : Traced (Except QueryError (List RawValue)) → Prop
  | misfit {before after : List AttributeSpec} {spec : AttributeSpec}
      (specs : m.specs = before ++ spec :: after) (fit : ∀ other ∈ before, other.shape = shape)
      (misfit : spec.shape ≠ shape) :
      Turn (.silent (.error (.unsupportedShape kind spec.name spec.shape)))
  | missing (fit : ∀ spec ∈ m.specs, spec.shape = shape) (missing : selector.value? = none) :
      Turn (.silent (.error (.invalidRequest ("The " ++ kind.word ++
        " backend requires a queryString"))))
  | asked {text : String} (fit : ∀ spec ∈ m.specs, spec.shape = shape)
      (given : selector.value? = some text) :
      Turn ⟨values kind read m.specs ((source text).within limit), [question text]⟩

variable {kind shape question source limit read m selector}

/-- A live backend deals with a request in one way only. -/
theorem Turn.eq_fetch {traced : Traced (Except QueryError (List RawValue))}
    (h : Turn kind shape question source limit read m selector traced) :
    (backend kind shape question source limit read).fetch m selector = traced := by
  cases h with
  | misfit specs fit misfit => simp only [backend, requireShape_of_misfit specs fit misfit]
  | missing fit missing => simp only [backend, requireShape_of_fit fit, requireSelector, missing]
  | asked fit given =>
    simp only [backend, requireShape_of_fit fit, requireSelector, given]
    rfl

variable (kind shape question source limit read m selector)

theorem fetch_turn : Turn kind shape question source limit read m selector
    ((backend kind shape question source limit read).fetch m selector) := by
  have hturn : ∃ traced, Turn kind shape question source limit read m selector traced := by
    rcases fit_or_misfit shape m with hfit | ⟨before, spec, after, hspecs, hbefore, hspec⟩
    · cases hselector : selector.value? with
      | none => exact ⟨_, .missing hfit hselector⟩
      | some text => exact ⟨_, .asked hfit hselector⟩
    · exact ⟨_, .misfit hspecs hbefore hspec⟩
  obtain ⟨traced, hturn⟩ := hturn
  rw [hturn.eq_fetch]
  exact hturn

end

/-- A source that agrees with another one on what was asked is as good as it. -/
theorem fetch_congr {other : String → Arrival α}
    (h : ∀ text,
      question text ∈ ((backend kind shape question source limit read).fetch m selector).questions →
        source text = other text) :
    (backend kind shape question other limit read).fetch m selector =
      (backend kind shape question source limit read).fetch m selector := by
  have hturn := fetch_turn kind shape question source limit read m selector
  generalize (backend kind shape question source limit read).fetch m selector = traced at hturn h ⊢
  cases hturn with
  | misfit specs fit misfit => exact (Turn.misfit specs fit misfit).eq_fetch
  | missing fit missing => exact (Turn.missing fit missing).eq_fetch
  | @asked text fit given =>
    rw [h text List.mem_cons_self]
    exact (Turn.asked fit given).eq_fetch

theorem value_eq_ok_iff {answer : α} {spec : AttributeSpec} {raw : RawValue} :
    value kind read answer spec = .ok raw ↔ read spec answer = .ok raw.value ∧
      raw.field = spec.field := by
  unfold value
  cases read spec answer with
  | error error => simp
  | ok found =>
    obtain ⟨field, held⟩ := raw
    simp [and_comm, eq_comm]

theorem value_eq_error_iff {answer : α} {spec : AttributeSpec} {error : QueryError} :
    value kind read answer spec = .error error ↔
      ∃ cause, read spec answer = .error cause ∧ error = .unavailable kind cause := by
  unfold value
  cases read spec answer <;> simp [eq_comm]

theorem exists_value_eq_ok_iff {answer : α} {spec : AttributeSpec} :
    (∃ raw, value kind read answer spec = .ok raw) ↔ ∃ held, read spec answer = .ok held := by
  simp only [value_eq_ok_iff]
  constructor
  · rintro ⟨raw, hread, -⟩
    exact ⟨raw.value, hread⟩
  · rintro ⟨held, hread⟩
    exact ⟨⟨spec.field, held⟩, hread, rfl⟩

theorem exists_of_values_eq_ok {specs : List AttributeSpec} {arrived : Except FetchError α}
    {found : List RawValue} (h : values kind read specs arrived = .ok found) :
    ∃ answer, specs.mapM (value kind read answer) = .ok found := by
  cases arrived with
  | error error => cases h
  | ok answer => exact ⟨answer, h⟩

theorem values_eq_error {specs : List AttributeSpec} {arrived : Except FetchError α}
    {error : QueryError} (h : values kind read specs arrived = .error error) :
    ∃ cause, error = .unavailable kind cause := by
  unfold values at h
  split at h
  · exact ⟨_, (Except.error.inj h).symm⟩
  · obtain ⟨_, _, _, _, _, hspec⟩ := mapM_eq_error_iff.mp h
    obtain ⟨cause, _, hcause⟩ := value_eq_error_iff.mp hspec
    exact ⟨cause, hcause⟩

/-! ## Answers in time -/

section

variable {answer : α} (fit : ∀ spec ∈ m.specs, spec.shape = shape)
  (given : selector.value? = some text) (arrived : (source text).within limit = .ok answer)

include fit given arrived

/-- An answer that arrives in time is read for one attribute after another. -/
theorem result_of_arrived :
    ((backend kind shape question source limit read).fetch m selector).result =
      m.specs.mapM (value kind read answer) := by
  rw [(Turn.asked fit given).eq_fetch, arrived]
  rfl

theorem exists_result_eq_ok_iff :
    (∃ found, ((backend kind shape question source limit read).fetch m selector).result =
      .ok found) ↔ ∀ spec ∈ m.specs, ∃ held, read spec answer = .ok held := by
  rw [result_of_arrived fit given arrived, exists_mapM_eq_ok_iff]
  simp only [exists_value_eq_ok_iff]

theorem result_eq_ok_iff {found : List RawValue} :
    ((backend kind shape question source limit read).fetch m selector).result = .ok found ↔
      List.Forall₂ (fun spec raw ↦ read spec answer = .ok raw.value ∧ raw.field = spec.field)
        m.specs found := by
  rw [result_of_arrived fit given arrived, mapM_eq_ok_iff]
  simp only [value_eq_ok_iff]

/-- The first attribute that cannot be read from the answer makes the backend unavailable. -/
theorem result_eq_error_iff {error : QueryError} :
    ((backend kind shape question source limit read).fetch m selector).result = .error error ↔
      ∃ before spec after, m.specs = before ++ spec :: after ∧
        (∀ other ∈ before, ∃ held, read other answer = .ok held) ∧
        ∃ cause, read spec answer = .error cause ∧ error = .unavailable kind cause := by
  rw [result_of_arrived fit given arrived, mapM_eq_error_iff]
  simp only [exists_value_eq_ok_iff, value_eq_error_iff]

end

/-! ## Failing sources -/

/-- An arrival that leaves the attributes without values. -/
inductive Fails (read : AttributeSpec → α → Except FetchError AttributeValue)
    (specs : List AttributeSpec) (limit : Nat) : Arrival α → Prop
  | error {milliseconds : Nat} {error : FetchError} :
      Fails read specs limit (.after milliseconds (.error error))
  | late {milliseconds : Nat} {answer : Except FetchError α} (late : limit < milliseconds) :
      Fails read specs limit (.after milliseconds answer)
  | never : Fails read specs limit .never
  | unreadable {milliseconds : Nat} {answer : α} {spec : AttributeSpec} {error : FetchError}
      (asked : spec ∈ specs) (unread : read spec answer = .error error) :
      Fails read specs limit (.after milliseconds (.ok answer))

theorem values_of_unreadable {specs : List AttributeSpec} {answer : α} {spec : AttributeSpec}
    {error : FetchError} (hasked : spec ∈ specs) (hunread : read spec answer = .error error) :
    ∃ cause, values kind read specs (.ok answer) = .error (.unavailable kind cause) := by
  cases hvalues : values kind read specs (.ok answer) with
  | error fault =>
    obtain ⟨cause, rfl⟩ := values_eq_error hvalues
    exact ⟨cause, rfl⟩
  | ok found =>
    obtain ⟨raw, _, hraw⟩ := exists_of_mapM_eq_ok hvalues hasked
    rw [(value_eq_ok_iff.mp hraw).1] at hunread
    cases hunread

/-- A source leaves the attributes without values exactly if the backend is unavailable. -/
theorem fails_iff {specs : List AttributeSpec} {arrival : Arrival α} :
    Fails read specs limit arrival ↔
      ∃ cause,
        values kind read specs (arrival.within limit) = .error (.unavailable kind cause) := by
  constructor
  · intro h
    cases h with
    | error =>
      rw [Arrival.within]
      split <;> exact ⟨_, rfl⟩
    | late late =>
      rw [Arrival.within, if_neg (Nat.not_le.mpr late)]
      exact ⟨_, rfl⟩
    | never => exact ⟨_, rfl⟩
    | unreadable asked unread =>
      rw [Arrival.within]
      split
      · exact values_of_unreadable asked unread
      · exact ⟨_, rfl⟩
  · rintro ⟨cause, h⟩
    cases arrival with
    | never => exact .never
    | after milliseconds answer =>
      by_cases htime : milliseconds ≤ limit
      · rw [Arrival.within, if_pos htime] at h
        cases answer with
        | error error => exact .error
        | ok answer =>
          obtain ⟨before, spec, after, hspecs, _, hspec⟩ := mapM_eq_error_iff.mp h
          obtain ⟨_, hunread, _⟩ := value_eq_error_iff.mp hspec
          exact .unreadable (by simp [hspecs]) hunread
      · exact .late (Nat.not_le.mp htime)

/-! ## Failing fetches -/

theorem result_eq_error {error : QueryError}
    (h : ((backend kind shape question source limit read).fetch m selector).result =
      .error error) :
    (∃ name shape, error = .unsupportedShape kind name shape) ∨
      (∃ reason, error = .invalidRequest reason) ∨ ∃ cause, error = .unavailable kind cause := by
  have hturn := fetch_turn kind shape question source limit read m selector
  generalize (backend kind shape question source limit read).fetch m selector = traced at hturn h
  cases hturn with
  | misfit => exact .inl ⟨_, _, (Except.error.inj h).symm⟩
  | missing => exact .inr (.inl ⟨_, (Except.error.inj h).symm⟩)
  | asked => exact .inr (.inr (values_eq_error h))

section

variable (kind question limit)

/-- If its source fails, a live backend that asks it is unavailable. -/
theorem result_of_fails (fit : ∀ spec ∈ m.specs, spec.shape = shape)
    (given : selector.value? = some text) (h : Fails read m.specs limit (source text)) :
    ∃ cause, ((backend kind shape question source limit read).fetch m selector).result =
      .error (.unavailable kind cause) := by
  rw [(Turn.asked fit given).eq_fetch]
  exact fails_iff.mp h

variable {kind question limit}

/-- Nothing but its source keeps a live backend that asks it from its values. -/
theorem fails_of_result (fit : ∀ spec ∈ m.specs, spec.shape = shape)
    (given : selector.value? = some text) {error : QueryError}
    (h : ((backend kind shape question source limit read).fetch m selector).result =
      .error error) : Fails read m.specs limit (source text) := by
  rw [(Turn.asked fit given).eq_fetch] at h
  obtain ⟨cause, rfl⟩ := values_eq_error h
  exact fails_iff.mpr ⟨cause, h⟩

end

end

end ContextProvider.Live
