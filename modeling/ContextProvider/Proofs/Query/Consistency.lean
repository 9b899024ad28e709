import ContextProvider.Proofs.Backend.Contract
import ContextProvider.Proofs.Query.Course

/-!
# Consistent results

Every backend of this library that succeeds answers the mapping, so that the assembly has nothing
to object to. What a client reads about an inconsistent result can then have one cause only: there
is no backend of the requested kind.
-/

namespace ContextProvider

/-! ## Recognising the report -/

/-- What a client is told of an inconsistency. -/
def inconsistentDetails : String := "Backend returned an inconsistent result"

theorem append_ne_of_not_isPrefix {s u : String} (h : ¬ s.toList <+: u.toList) (t : String) :
    s ++ t ≠ u := by
  rintro rfl
  rw [String.toList_append] at h
  exact h (List.prefix_append _ _)

/-- No other error is reported in the words of an inconsistency. -/
theorem QueryError.publicDetails_eq_inconsistentDetails_iff {error : QueryError} :
    error.publicDetails = inconsistentDetails ↔ ∃ reason, error = .inconsistent reason := by
  constructor
  · intro h
    unfold publicDetails QueryError.text at h
    cases error with
    | inconsistent reason => exact ⟨reason, rfl⟩
    | invalidMapping reason => exact absurd h (append_ne_of_not_isPrefix (by decide) _)
    | duplicateAttribute name => exact absurd h (append_ne_of_not_isPrefix (by decide) _)
    | invalidRequest reason => exact absurd h (append_ne_of_not_isPrefix (by decide) _)
    | unsupportedShape kind name shape =>
      simp only [String.append_assoc] at h
      exact absurd h (append_ne_of_not_isPrefix (by decide) _)
    | fixtureNotFound field selector =>
      simp only [String.append_assoc] at h
      exact absurd h (append_ne_of_not_isPrefix (by decide) _)
    | unavailable kind cause =>
      simp only [String.append_assoc] at h
      exact absurd h (append_ne_of_not_isPrefix (by decide) _)
  · rintro ⟨reason, rfl⟩
    rfl

theorem readEntity_error_ne_inconsistent {body : List UInt8} {error : QueryError}
    (h : readEntity body = .error error) (reason : String) : error ≠ .inconsistent reason := by
  unfold readEntity at h
  split at h
  · cases h
  · split at h
    · cases h
    · cases h
      simp

theorem MappingFault.toQueryError_ne_inconsistent (fault : MappingFault) (reason : String) :
    fault.toQueryError ≠ .inconsistent reason := by
  cases fault <;> simp [toQueryError]

theorem Entity.details_failed_iff (entity : Entity) {error : QueryError} :
    (entity.failed error).status.details = some inconsistentDetails ↔
      ∃ reason, error = .inconsistent reason := by
  rw [← QueryError.publicDetails_eq_inconsistentDetails_iff]
  exact Option.some_inj

/-! ## Requests to the backends of this library -/

/-- A request is read, and its kind has no backend. -/
structure Unregistered (registry : Registry) (kind : BackendKind) (type mapping : String)
    (body : List UInt8) : Prop where
  readable : ∃ entity, readEntity body = .ok entity
  parsed : ∃ m, Mapping.parse type mapping = .ok m
  unknown : registry.find? kind = none

theorem Backend.Shipped.assemble_details_ne {backend : Backend} (shipped : backend.Shipped)
    (entity : Entity) (m : Mapping) (selector : Selector) :
    ∃ response : ContextResponse,
      (assemble entity m (backend.fetch m selector).result).envelope = ⟨[response]⟩ ∧
        response.status.details ≠ some inconsistentDetails := by
  cases hfetch : (backend.fetch m selector).result with
  | error error =>
    refine ⟨entity.failed error, rfl, fun hdetails ↦ ?_⟩
    obtain ⟨reason, hreason⟩ := entity.details_failed_iff.mp hdetails
    exact shipped.error_ne_inconsistent hfetch reason hreason
  | ok values =>
    rw [assemble_of_answered entity (shipped.answeredBy hfetch)]
    exact ⟨entity.complete m values, rfl, by simp [Entity.complete, StatusCode.ok]⟩

/-- The backends of this library answer the mapping whenever they succeed, and with them a result
is reported as inconsistent exactly for a kind without a backend. -/
theorem shipped_answered_and_consistent {registry : Registry} {kind : BackendKind}
    (type mapping : String) (selector : Selector) (body : List UInt8)
    (shipped : ∀ backend, registry.find? kind = some backend → backend.Shipped) :
    (∀ (backend : Backend) (m : Mapping) (asked : Selector) (values : List RawValue),
      backend.Shipped → (backend.fetch m asked).result = .ok values → m.AnsweredBy values) ∧
    ∃ response : ContextResponse,
      (queryContext registry kind type mapping selector body).result.envelope.responses =
        [response] ∧
      (response.status.details = some inconsistentDetails ↔
        Unregistered registry kind type mapping body) := by
  refine ⟨fun _ _ _ _ hshipped hfetch ↦ hshipped.answeredBy hfetch, ?_⟩
  have hcourse := queryContext_course registry kind type mapping selector body
  generalize queryContext registry kind type mapping selector body = answer at hcourse ⊢
  cases hcourse with
  | @unreadable error read =>
    refine ⟨Entity.unnamed.failed error, rfl, fun hdetails ↦ ?_, fun hunregistered ↦ ?_⟩
    · obtain ⟨reason, hreason⟩ := Entity.unnamed.details_failed_iff.mp hdetails
      exact absurd hreason (readEntity_error_ne_inconsistent read reason)
    · obtain ⟨entity, hread⟩ := hunregistered.readable
      cases read.symm.trans hread
  | @unparsed entity fault read parsed =>
    refine ⟨entity.failed fault.toQueryError, rfl, fun hdetails ↦ ?_, fun hunregistered ↦ ?_⟩
    · obtain ⟨reason, hreason⟩ := entity.details_failed_iff.mp hdetails
      exact absurd hreason (fault.toQueryError_ne_inconsistent reason)
    · obtain ⟨m, hparsed⟩ := hunregistered.parsed
      cases parsed.symm.trans hparsed
  | @unregistered entity m read parsed found =>
    exact ⟨entity.failed _, rfl, fun _ ↦ ⟨⟨entity, read⟩, ⟨m, parsed⟩, found⟩,
      fun _ ↦ entity.details_failed_iff.mpr ⟨_, rfl⟩⟩
  | @fetched entity m backend read parsed found =>
    obtain ⟨response, hanswer, hdetails⟩ :=
      (shipped backend found).assemble_details_ne entity m selector
    refine ⟨response, by rw [hanswer], fun h ↦ absurd h hdetails, fun hunregistered ↦ ?_⟩
    cases found.symm.trans hunregistered.unknown

/-- The only backend is a search that finds two results, one of them without any field. -/
def uneven : Registry where
  backends := [Search.backend (fun _ ↦ .now (.ok [[("text", .bool true)], []])) 5]

theorem uneven_answered_and_consistent :
    (∀ backend, uneven.find? .twitter = some backend → backend.Shipped) ∧
    ∃ response : ContextResponse,
      (queryContext uneven .twitter "list" "tweets" (.ofText "madrid") []).result.envelope.responses
        = [response] ∧
      response.status.details ≠ some inconsistentDetails := by
  have hshipped : ∀ backend, uneven.find? .twitter = some backend → backend.Shipped := by
    intro backend h
    cases h
    exact .search _ _
  refine ⟨hshipped, ?_⟩
  obtain ⟨-, response, hresponse, hdetails⟩ :=
    shipped_answered_and_consistent "list" "tweets" (.ofText "madrid") [] hshipped
  refine ⟨response, hresponse, fun h ↦ ?_⟩
  cases (hdetails.mp h).unknown

end ContextProvider
