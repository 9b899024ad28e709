import ContextProvider.Proofs.Mapping.Units
import ContextProvider.Proofs.Query.Course

/-!
# Complete answers

The answer to a request is complete or it is empty. A complete answer reports one attribute for
each unit of the mapping text, in the order of the text, with the value that the backend gave in
that place; it is given exactly when the request reaches a backend whose values answer the mapping.
Every other answer is an error with details and without attributes. Nothing is assumed of the
backends, so no values that they may come up with are reported in part or under a wrong name.
-/

namespace ContextProvider

/-- An attribute is reported under its name, with the type of its shape and the value as it is. -/
inductive ContextAttribute.Reports : ContextAttribute → AttributeSpec → RawValue → Prop
  | scalar {name field : String} {value : Json} :
      Reports ⟨name, "number", value⟩ ⟨name, field, .scalar⟩ ⟨field, .scalar value⟩
  | list {name field : String} {items : List Json} :
      Reports ⟨name, "array", .array items⟩ ⟨name, field, .list⟩ ⟨field, .list items⟩

/-- A success that reports each attribute of the mapping with the value in its place. -/
structure ContextResponse.Complete (response : ContextResponse) (m : Mapping)
    (values : List RawValue) : Prop where
  code : response.status.code = "200"
  details : response.status.details = none
  count : response.element.attributes.length = m.specs.length
  distinct : (response.element.attributes.map ContextAttribute.name).Nodup
  reported : ∀ (i : Nat) (shown : ContextAttribute) (spec : AttributeSpec) (raw : RawValue),
    response.element.attributes[i]? = some shown → m.specs[i]? = some spec →
      values[i]? = some raw → shown.Reports spec raw

/-- An error with its phrase and details, and without attributes. -/
structure ContextResponse.Failed (response : ContextResponse) : Prop where
  status : (response.status.code, response.status.reasonPhrase) ∈
    [("400", "Bad Request"), ("404", "No context element found"), ("500", "Internal Server Error")]
  details : ∃ details, response.status.details = some details
  attributes : response.element.attributes = []

/-- A request is read, its kind has a backend, and the values of the backend answer its mapping. -/
structure Served (registry : Registry) (kind : BackendKind) (type mapping : String)
    (selector : Selector) (body : List UInt8) (m : Mapping) (values : List RawValue) : Prop where
  readable : ∃ entity, readEntity body = .ok entity
  parsed : Mapping.parse type mapping = .ok m
  fetched : ∃ backend, registry.find? kind = some backend ∧
    (backend.fetch m selector).result = .ok values
  answered : m.AnsweredBy values

theorem report_reports {spec : AttributeSpec} {raw : RawValue} (h : raw.Answers spec) :
    (spec.report raw).Reports spec raw := by
  obtain ⟨name, field, shape⟩ := spec
  obtain ⟨source, value⟩ := raw
  obtain ⟨rfl, rfl⟩ := h
  cases value
  · exact .scalar
  · exact .list

theorem Entity.names_complete (entity : Entity) {m : Mapping} {values : List RawValue}
    (h : m.AnsweredBy values) :
    (entity.complete m values).element.attributes.map ContextAttribute.name =
      m.specs.map AttributeSpec.name := by
  have hzip : (m.specs.zip values).map Prod.fst = m.specs := List.map_fst_zip h.length_eq.le
  conv_rhs => rw [← hzip]
  simp only [complete, element, List.map_map, Function.comp_def, AttributeSpec.report]

theorem Entity.complete_complete (entity : Entity) {m : Mapping} {values : List RawValue}
    (h : m.AnsweredBy values) : (entity.complete m values).Complete m values where
  code := rfl
  details := rfl
  count := by
    have hnames := congrArg List.length (entity.names_complete h)
    simpa only [List.length_map] using hnames
  distinct := by
    rw [entity.names_complete h]
    exact m.distinct
  reported i shown spec raw hshown hspec hraw := by
    have hzip : (m.specs.zip values)[i]? = some (spec, raw) :=
      List.getElem?_zip_eq_some.mpr ⟨hspec, hraw⟩
    have hreport : shown = spec.report raw := by
      simpa [complete, element, hzip, eq_comm] using hshown
    rw [hreport]
    exact report_reports ((List.forall₂_iff_zip.mp h).2 (List.mem_of_getElem? hzip))

theorem Entity.failed_failed (entity : Entity) (error : QueryError) :
    (entity.failed error).Failed where
  status := by
    rcases error.status_cases with ⟨hcode, hphrase⟩ | ⟨hcode, hphrase⟩ | ⟨hcode, hphrase⟩
    all_goals simp [failed, hcode, hphrase]
  details := ⟨error.publicDetails, rfl⟩
  attributes := rfl

theorem ContextResponse.Failed.code_ne {response : ContextResponse} (h : response.Failed) :
    response.status.code ≠ "200" := by
  have hstatus := h.status
  simp only [List.mem_cons, Prod.mk.injEq, List.not_mem_nil, or_false] at hstatus
  rcases hstatus with ⟨hcode, -⟩ | ⟨hcode, -⟩ | ⟨hcode, -⟩ <;> rw [hcode] <;> decide

section

variable (registry : Registry) (kind : BackendKind) (type mapping : String) (selector : Selector)
  (body : List UInt8)

theorem queryContext_of_served {registry kind type mapping selector body} {m : Mapping}
    {values : List RawValue} (h : Served registry kind type mapping selector body m values) :
    ∃ entity : Entity, (queryContext registry kind type mapping selector body).result.envelope =
      ⟨[entity.complete m values]⟩ := by
  obtain ⟨entity, hread⟩ := h.readable
  obtain ⟨backend, hfound, hfetch⟩ := h.fetched
  refine ⟨entity, ?_⟩
  rw [(Course.fetched hread h.parsed hfound).eq_queryContext, hfetch,
    assemble_of_answered entity h.answered]
  rfl

theorem queryContext_served_or_failed :
    (∃ m values, Served registry kind type mapping selector body m values) ∨
      ∃ (entity : Entity) (error : QueryError),
        (queryContext registry kind type mapping selector body).result.envelope =
          ⟨[entity.failed error]⟩ := by
  have hcourse := queryContext_course registry kind type mapping selector body
  generalize queryContext registry kind type mapping selector body = answer at hcourse ⊢
  cases hcourse with
  | unreadable _ => exact .inr ⟨_, _, rfl⟩
  | unparsed _ _ => exact .inr ⟨_, _, rfl⟩
  | unregistered _ _ _ => exact .inr ⟨_, _, rfl⟩
  | @fetched entity m backend read parsed found =>
    cases hfetch : (backend.fetch m selector).result with
    | error error => exact .inr ⟨_, _, rfl⟩
    | ok values =>
      by_cases hanswered : m.AnsweredBy values
      · exact .inl ⟨m, values, ⟨entity, read⟩, parsed, ⟨backend, found, hfetch⟩, hanswered⟩
      · obtain ⟨reason, hreason⟩ := assemble_of_not_answered entity hanswered
        exact .inr ⟨entity, .inconsistent reason, by rw [hreason]; rfl⟩

/-- Every answer is one response, complete or failed, and it is complete for the requests that are
served and for no others. -/
theorem queryContext_complete_or_failed :
    ∃ response : ContextResponse,
      (queryContext registry kind type mapping selector body).result.envelope.responses =
        [response] ∧
      ((∃ m values, Served registry kind type mapping selector body m values ∧
          response.Complete m values ∧
          response.element.attributes.map ContextAttribute.name =
            (Text.pieces ',' mapping).map Mapping.unitName) ∨
        response.Failed) ∧
      (response.status.code = "200" ↔
        ∃ m values, Served registry kind type mapping selector body m values) := by
  rcases queryContext_served_or_failed registry kind type mapping selector body with
    ⟨m, values, hserved⟩ | ⟨entity, error, hanswer⟩
  · obtain ⟨entity, hanswer⟩ := queryContext_of_served hserved
    have hnames : (entity.complete m values).element.attributes.map ContextAttribute.name =
        (Text.pieces ',' mapping).map Mapping.unitName := by
      rw [entity.names_complete hserved.answered, Mapping.names_of_parse hserved.parsed]
    exact ⟨entity.complete m values, by rw [hanswer],
      .inl ⟨m, values, hserved, entity.complete_complete hserved.answered, hnames⟩,
      fun _ ↦ ⟨m, values, hserved⟩, fun _ ↦ rfl⟩
  · refine ⟨entity.failed error, by rw [hanswer], .inr (entity.failed_failed error),
      fun hcode ↦ absurd hcode (entity.failed_failed error).code_ne, ?_⟩
    rintro ⟨m, values, hserved⟩
    obtain ⟨served, hcomplete⟩ := queryContext_of_served hserved
    have hsame : entity.failed error = served.complete m values := by
      simpa using hanswer.symm.trans hcomplete
    rw [hsame]
    rfl

end

end ContextProvider
