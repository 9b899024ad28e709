import ContextProvider.Assembly
import ContextProvider.Proofs.Backend.Traversal

/-!
# Assembled answers

Values that answer a mapping one by one are reported as they are. Everything else becomes an error,
whose status is one of three.
-/

namespace ContextProvider

/-! ## Values that answer a mapping -/

/-- The value was read from the attribute's field and has its shape. -/
def RawValue.Answers (raw : RawValue) (spec : AttributeSpec) : Prop :=
  raw.field = spec.field ∧ raw.value.shape = spec.shape

/-- There is one value for each attribute, in its place. -/
def Mapping.AnsweredBy (m : Mapping) (values : List RawValue) : Prop :=
  List.Forall₂ (fun spec raw ↦ raw.Answers spec) m.specs values

theorem RawValue.fits_iff {raw : RawValue} {spec : AttributeSpec} :
    raw.fits spec = true ↔ raw.Answers spec := by
  simp only [RawValue.fits, RawValue.Answers, Bool.and_eq_true, beq_iff_eq]
  exact and_congr eq_comm eq_comm

theorem misalignment?_eq_none_iff {specs : List AttributeSpec} {values : List RawValue} :
    misalignment? specs values = none ↔
      List.Forall₂ (fun spec raw ↦ raw.Answers spec) specs values := by
  rw [List.forall₂_iff_zip]
  unfold misalignment?
  split
  · rename_i hlength
    exact ⟨fun h ↦ absurd h (by simp), fun h ↦ absurd h.1.symm hlength⟩
  · rename_i hlength
    rw [Option.map_eq_none_iff, List.find?_eq_none]
    constructor
    · intro h
      refine ⟨(not_not.mp hlength).symm, fun {spec raw} hmem ↦ RawValue.fits_iff.mp ?_⟩
      simpa using h (spec, raw) hmem
    · rintro ⟨-, h⟩ ⟨spec, raw⟩ hmem
      simpa using RawValue.fits_iff.mpr (h hmem)

theorem Mapping.answeredBy_of_mapM {m : Mapping} {values : List RawValue}
    {fetch : AttributeSpec → Except QueryError RawValue} (hvalues : m.specs.mapM fetch = .ok values)
    (hfetch : ∀ spec ∈ m.specs, ∀ raw, fetch spec = .ok raw → raw.Answers spec) :
    m.AnsweredBy values := by
  have hmem := (List.forall₂_and_left (p := (· ∈ m.specs)) m.specs values).mpr
    ⟨fun _ ↦ id, mapM_eq_ok_iff.mp hvalues⟩
  exact hmem.imp fun spec raw h ↦ hfetch spec h.1 raw h.2

/-! ## Responses -/

/-- The single response of a success. -/
def Entity.complete (entity : Entity) (m : Mapping) (values : List RawValue) : ContextResponse :=
  ⟨entity.element ((m.specs.zip values).map fun (spec, raw) ↦ spec.report raw), .ok⟩

/-- The single response of an error. -/
def Entity.failed (entity : Entity) (error : QueryError) : ContextResponse :=
  ⟨entity.element [], error.status⟩

theorem assemble_of_answered (entity : Entity) {m : Mapping} {values : List RawValue}
    (h : m.AnsweredBy values) : assemble entity m (.ok values) = .success entity m values := by
  simp only [assemble, misalignment?_eq_none_iff.mpr h]

theorem assemble_of_not_answered (entity : Entity) {m : Mapping} {values : List RawValue}
    (h : ¬ m.AnsweredBy values) :
    ∃ reason, assemble entity m (.ok values) = .failure entity (.inconsistent reason) := by
  obtain ⟨fault, hfault⟩ := Option.ne_none_iff_exists'.mp (mt misalignment?_eq_none_iff.mp h)
  exact ⟨fault.message, by simp only [assemble, hfault]⟩

theorem QueryError.statusCode_cases (error : QueryError) :
    error.statusCode = 400 ∨ error.statusCode = 404 ∨ error.statusCode = 500 := by
  cases error <;> simp [statusCode]

/-- The three codes of an error, each with its phrase. -/
theorem QueryError.status_cases (error : QueryError) :
    (error.status.code = "400" ∧ error.status.reasonPhrase = "Bad Request") ∨
      (error.status.code = "404" ∧ error.status.reasonPhrase = "No context element found") ∨
      (error.status.code = "500" ∧ error.status.reasonPhrase = "Internal Server Error") := by
  rcases error.statusCode_cases with h | h | h
  · exact .inl ⟨by rw [status, h]; rfl, by simp [status, reasonPhrase, h]⟩
  · exact .inr (.inl ⟨by rw [status, h]; rfl, by simp [status, reasonPhrase, h]⟩)
  · exact .inr (.inr ⟨by rw [status, h]; rfl, by simp [status, reasonPhrase, h]⟩)

/-- The status of an error of the server is fixed but for what the client is told. -/
theorem QueryError.status_of_server_error {error : QueryError} (h : error.statusCode = 500) :
    error.status = ⟨"500", "Internal Server Error", some error.publicDetails⟩ := by
  rw [status, reasonPhrase, h]
  rfl

theorem Entity.statusNumber_complete (entity : Entity) (m : Mapping) (values : List RawValue) :
    (Envelope.mk [entity.complete m values]).statusNumber = 200 := by
  have hnumber : statusNumber? "200" = some 200 := by decide
  simp only [complete, StatusCode.ok, Envelope.statusNumber, List.head?_cons, Option.bind_some,
    hnumber, Option.getD_some]

/-- The number of a failed response is the code of its error. -/
theorem Entity.statusNumber_failed (entity : Entity) (error : QueryError) :
    (Envelope.mk [entity.failed error]).statusNumber = error.statusCode := by
  change (statusNumber? (toString error.statusCode)).getD 0 = error.statusCode
  rcases error.statusCode_cases with h | h | h <;> rw [h] <;> decide

theorem Entity.statusNumber_failed_ne (entity : Entity) (error : QueryError) :
    (Envelope.mk [entity.failed error]).statusNumber ≠ 200 := by
  rw [statusNumber_failed]
  rcases error.statusCode_cases with h | h | h <;> omega

/-- What is assembled is a success, or the failure of an error. -/
theorem assemble_cases (entity : Entity) (m : Mapping)
    (values : Except QueryError (List RawValue)) :
    (∃ given, assemble entity m values = .success entity m given) ∨
      ∃ error, assemble entity m values = .failure entity error := by
  cases values with
  | error error => exact .inr ⟨error, rfl⟩
  | ok given =>
    by_cases hanswered : m.AnsweredBy given
    · exact .inl ⟨given, assemble_of_answered entity hanswered⟩
    · obtain ⟨reason, hreason⟩ := assemble_of_not_answered entity hanswered
      exact .inr ⟨_, hreason⟩

end ContextProvider
