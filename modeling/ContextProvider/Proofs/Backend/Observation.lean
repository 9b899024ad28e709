import ContextProvider.Proofs.Backend.Values

/-!
# Readings of an observation

An observation answers all attributes of a request or none. Each attribute has a reading if the
observation holds its field and the value there stands for a number; the first attribute without a
reading decides how the request fails. A reading belongs to the field and not to the attribute:
attributes of one field have the same reading, and fields that no attribute is read from might as
well be absent.
-/

namespace ContextProvider.Observation

open Json Number

/-! ## Readings -/

section

variable (spec : AttributeSpec) (observation : Fields)

/-- The number that an observation has for an attribute. -/
inductive HasReading (x : Double) : Prop
  | mk {value : Json} (held : observation.get? spec.field = some value)
      (numeric : coerceNumber value = some x)

/-- Why an observation has no number for an attribute. -/
inductive LacksReading : String → Prop
  | missing (lacking : observation.get? spec.field = none) :
      LacksReading ("observation has no '" ++ spec.field ++ "' field")
  | textual {value : Json} (held : observation.get? spec.field = some value)
      (textual : coerceNumber value = none) :
      LacksReading ("observation field '" ++ spec.field ++ "' is not numeric: " ++ value.text)

end

variable {spec : AttributeSpec} {observation : Fields}

theorem reading_of_hasReading {x : Double} (h : HasReading spec observation x) :
    reading spec observation = .ok (.number x) := by
  obtain ⟨held, numeric⟩ := h
  simp only [reading, held, numeric]

theorem reading_of_lacksReading {reason : String} (h : LacksReading spec observation reason) :
    reading spec observation = .error (.malformed reason) := by
  cases h with
  | missing lacking => simp only [reading, lacking]
  | textual held textual => simp only [reading, held, textual]

/-- An observation either has a number for an attribute or lacks it. -/
theorem hasReading_or_lacksReading (spec : AttributeSpec) (observation : Fields) :
    (∃ x, HasReading spec observation x) ∨ ∃ reason, LacksReading spec observation reason := by
  cases hheld : observation.get? spec.field with
  | none => exact .inr ⟨_, .missing hheld⟩
  | some value =>
    cases hnumeric : coerceNumber value with
    | none => exact .inr ⟨_, .textual hheld hnumeric⟩
    | some x => exact .inl ⟨x, hheld, hnumeric⟩

theorem reading_eq_ok_iff {value : AttributeValue} : reading spec observation = .ok value ↔
    ∃ x, value = .number x ∧ HasReading spec observation x := by
  constructor
  · intro h
    rcases hasReading_or_lacksReading spec observation with ⟨x, hx⟩ | ⟨reason, hreason⟩
    · cases h.symm.trans (reading_of_hasReading hx)
      exact ⟨x, rfl, hx⟩
    · cases h.symm.trans (reading_of_lacksReading hreason)
  · rintro ⟨x, rfl, hx⟩
    exact reading_of_hasReading hx

theorem exists_reading_eq_ok_iff :
    (∃ value, reading spec observation = .ok value) ↔ ∃ x, HasReading spec observation x := by
  simp only [reading_eq_ok_iff]
  constructor
  · rintro ⟨_, x, rfl, hx⟩
    exact ⟨x, hx⟩
  · rintro ⟨x, hx⟩
    exact ⟨_, x, rfl, hx⟩

theorem reading_eq_error_iff {error : FetchError} : reading spec observation = .error error ↔
    ∃ reason, LacksReading spec observation reason ∧ error = .malformed reason := by
  constructor
  · intro h
    rcases hasReading_or_lacksReading spec observation with ⟨x, hx⟩ | ⟨reason, hreason⟩
    · cases h.symm.trans (reading_of_hasReading hx)
    · cases h.symm.trans (reading_of_lacksReading hreason)
      exact ⟨reason, hreason, rfl⟩
  · rintro ⟨reason, hreason, rfl⟩
    exact reading_of_lacksReading hreason

/-- Attributes of one field have one reading. -/
theorem HasReading.eq_of_field {other : AttributeSpec} {x y : Double}
    (hx : HasReading spec observation x) (hy : HasReading other observation y)
    (hfield : spec.field = other.field) : x = y := by
  obtain ⟨held, numeric⟩ := hx
  obtain ⟨held', numeric'⟩ := hy
  rw [hfield] at held
  cases held.symm.trans held'
  exact Option.some.inj (numeric.symm.trans numeric')

/-- Readings of an observation as JSON has it are numbers that JSON has, too. -/
theorem HasReading.exists_number_eq {x : Double} (h : HasReading spec observation x)
    (hrange : InRange observation) :
    ∃ y, AttributeValue.number x = .scalar (.number (.double y)) := by
  obtain @⟨value, held, numeric⟩ := h
  have hvalue : ∀ n, value = .number n → n.InRange := by
    rintro n rfl
    exact hrange _ n held
  obtain ⟨y, rfl⟩ := exists_eq_finite_of_coerceNumber hvalue numeric
  exact ⟨y, rfl⟩

theorem reading_congr {other : Fields} (h : other.get? spec.field = observation.get? spec.field) :
    reading spec other = reading spec observation := by
  rw [reading, reading, h]

/-! ## Observations in time -/

section

variable {source : String → Arrival Fields} {limit : Nat} {m : Mapping} {selector : Selector}
  {place : String}

/-- Observations that agree on the fields of the attributes are answered alike. -/
theorem fetch_congr_of_fields {source' : String → Arrival Fields} {observation' : Fields}
    (hscalar : ∀ spec ∈ m.specs, spec.shape = .scalar) (hplace : selector.value? = some place)
    (hobserved : (source place).within limit = .ok observation)
    (hobserved' : (source' place).within limit = .ok observation')
    (h : ∀ spec ∈ m.specs, observation'.get? spec.field = observation.get? spec.field) :
    (backend source' limit).fetch m selector = (backend source limit).fetch m selector := by
  have hvalue : ∀ spec ∈ m.specs, Live.value .weather reading observation' spec =
      Live.value .weather reading observation spec := by
    intro spec hspec
    rw [Live.value, Live.value, reading_congr (h spec hspec)]
  rw [backend, backend, (Live.Turn.asked hscalar hplace).eq_fetch,
    (Live.Turn.asked hscalar hplace).eq_fetch, hobserved, hobserved']
  simp only [Live.values, mapM_congr_of_mem hvalue]

/-- An observation that arrives in time gives every attribute its reading, if each attribute has
one. Otherwise the data source counts as unavailable, because of the first attribute that has none.
The readings are numbers, the same for attributes of one field, and no other field of the
observation plays a part. -/
theorem readings_or_first_gap (hscalar : ∀ spec ∈ m.specs, spec.shape = .scalar)
    (hplace : selector.value? = some place)
    (hobserved : (source place).within limit = .ok observation) :
    ((∃ values, ((backend source limit).fetch m selector).result = .ok values) ↔
      ∀ spec ∈ m.specs, ∃ x, HasReading spec observation x) ∧
    (∀ values, ((backend source limit).fetch m selector).result = .ok values ↔
      List.Forall₂ (fun spec raw ↦ raw.field = spec.field ∧
        ∃ x, raw.value = .number x ∧ HasReading spec observation x) m.specs values) ∧
    (∀ error, ((backend source limit).fetch m selector).result = .error error ↔
      ∃ before spec after, m.specs = before ++ spec :: after ∧
        (∀ other ∈ before, ∃ x, HasReading other observation x) ∧
        ∃ reason, LacksReading spec observation reason ∧
          error = .unavailable .weather (.malformed reason)) ∧
    (∀ values, ((backend source limit).fetch m selector).result = .ok values →
      (InRange observation → ∀ raw ∈ values, ∃ y, raw.value = .scalar (.number (.double y))) ∧
      ∀ spec raw spec' raw', (spec, raw) ∈ m.specs.zip values →
        (spec', raw') ∈ m.specs.zip values → spec.field = spec'.field → raw.value = raw'.value) ∧
    ∀ source' observation', (source' place).within limit = .ok observation' →
      (∀ spec ∈ m.specs, observation'.get? spec.field = observation.get? spec.field) →
      (backend source' limit).fetch m selector = (backend source limit).fetch m selector := by
  have hvalues (values : List RawValue) :
      ((backend source limit).fetch m selector).result = .ok values ↔
        List.Forall₂ (fun spec raw ↦ raw.field = spec.field ∧
          ∃ x, raw.value = .number x ∧ HasReading spec observation x) m.specs values := by
    rw [backend, Live.result_eq_ok_iff hscalar hplace hobserved]
    simp only [reading_eq_ok_iff, and_comm]
  refine ⟨?_, hvalues, fun error ↦ ?_, fun values h ↦ ?_, fun source' observation' hobserved' h ↦
    fetch_congr_of_fields hscalar hplace hobserved hobserved' h⟩
  · rw [backend, Live.exists_result_eq_ok_iff hscalar hplace hobserved]
    simp only [exists_reading_eq_ok_iff]
  · rw [backend, Live.result_eq_error_iff hscalar hplace hobserved]
    have hgap (spec : AttributeSpec) :
        (∃ cause, reading spec observation = .error cause ∧
          error = .unavailable .weather cause) ↔
          ∃ reason, LacksReading spec observation reason ∧
            error = .unavailable .weather (.malformed reason) := by
      simp only [reading_eq_error_iff]
      grind
    simp only [exists_reading_eq_ok_iff, hgap]
  · have hread := (hvalues values).mp h
    refine ⟨fun hrange raw hraw ↦ ?_, fun spec raw spec' raw' hmem hmem' hfield ↦ ?_⟩
    · obtain ⟨spec, -, -, x, hx, hreading⟩ := exists_mem_of_forall₂ hread.flip hraw
      rw [hx]
      exact hreading.exists_number_eq hrange
    · obtain ⟨-, x, hx, hreading⟩ := (List.forall₂_iff_zip.mp hread).2 hmem
      obtain ⟨-, y, hy, hreading'⟩ := (List.forall₂_iff_zip.mp hread).2 hmem'
      rw [hx, hy, hreading.eq_of_field hreading' hfield]

end

/-- Two attributes of one field around a third. -/
def weatherMapping : Mapping where
  specs := [⟨"temperature", "temp_c", .scalar⟩, ⟨"humidity", "relative_humidity", .scalar⟩,
    ⟨"feelsLike", "temp_c", .scalar⟩]
  nonempty := by decide
  named := by decide
  distinct := by decide

/-- A number, a text that spells one, and a field that nobody asks for. -/
def weatherFields : Fields := [
  ("relative_humidity", .string " 65 % "), ("temp_c", .number (.integer (-7))), ("weather", .null)]

/-- The same fields with a text that spells no finite number. -/
def stormyFields : Fields := [("relative_humidity", .string "1e999"), ("temp_c", .string "-7%")]

/-- All three attributes are answered, or none because of the second. -/
theorem weatherFields_readings :
    (∀ spec ∈ weatherMapping.specs, spec.shape = .scalar) ∧
    ((backend (fun _ ↦ .now (.ok weatherFields)) 0).fetch weatherMapping (.ofText "q")).result =
      .ok [⟨"temp_c", .number (.ofInt (-7))⟩, ⟨"relative_humidity", .number (.ofInt 65)⟩,
        ⟨"temp_c", .number (.ofInt (-7))⟩] ∧
    ((backend (fun _ ↦ .now (.ok stormyFields)) 0).fetch weatherMapping (.ofText "q")).result =
      .error (.unavailable .weather (.malformed
        "observation field 'relative_humidity' is not numeric: \"1e999\"")) := by
  have hscalar : ∀ spec ∈ weatherMapping.specs, spec.shape = .scalar := by decide
  have hplace : (Selector.ofText "q").value? = some "q" := rfl
  refine ⟨hscalar, ?_, ?_⟩
  · apply ((readings_or_first_gap hscalar hplace rfl).2.1 _).mpr
    have hcold (name : String) :
        HasReading ⟨name, "temp_c", .scalar⟩ weatherFields (.ofInt (-7)) := ⟨rfl, rfl⟩
    have hdamp : HasReading ⟨"humidity", "relative_humidity", .scalar⟩ weatherFields (.ofInt 65) :=
      ⟨rfl, by decide⟩
    exact .cons ⟨rfl, _, rfl, hcold _⟩ (.cons ⟨rfl, _, rfl, hdamp⟩
      (.cons ⟨rfl, _, rfl, hcold _⟩ .nil))
  · apply ((readings_or_first_gap hscalar hplace rfl).2.2.1 _).mpr
    have hcold : HasReading ⟨"temperature", "temp_c", .scalar⟩ stormyFields (.ofInt (-7)) :=
      ⟨rfl, by decide⟩
    refine ⟨[_], _, [_], rfl, List.forall_mem_singleton.mpr ⟨_, hcold⟩, _,
      .textual rfl (by decide), ?_⟩
    decide

end ContextProvider.Observation
