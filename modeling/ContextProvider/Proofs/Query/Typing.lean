import ContextProvider.Proofs.Backend.Values
import ContextProvider.Proofs.Query.Completeness

/-!
# Types of reported attributes

A success reports numbers as `number` and lists as `array`, with the items that the kind of backend
may hold. No null, truth value or structure is passed off as a number, and no list holds a
structure, whatever the request and the data behind the backend are.
-/

namespace ContextProvider

open Json

/-- The value is what the type of the attribute says: a number, or an array of items that the kind
of backend may hold. -/
inductive ContextAttribute.WellTyped (kind : BackendKind) : ContextAttribute → Prop
  | number {name : String} {n : Numeric} : WellTyped kind ⟨name, "number", .number n⟩
  | array {name : String} {items : List Json} (held : ∀ item ∈ items, kind.Lists item) :
      WellTyped kind ⟨name, "array", .array items⟩

theorem ContextAttribute.Reports.wellTyped {shown : ContextAttribute} {spec : AttributeSpec}
    {raw : RawValue} (h : shown.Reports spec raw) {kind : BackendKind}
    (hraw : raw.value.WellTyped kind) : shown.WellTyped kind := by
  cases h with
  | scalar =>
    cases hraw
    exact .number
  | list =>
    cases hraw with
    | list held => exact .array held

/-- The attributes of a complete response are as well typed as the values. -/
theorem ContextResponse.Complete.wellTyped {response : ContextResponse} {m : Mapping}
    {values : List RawValue} (h : response.Complete m values) (hanswered : m.AnsweredBy values)
    {kind : BackendKind} (hvalues : ∀ raw ∈ values, raw.value.WellTyped kind) :
    ∀ shown ∈ response.element.attributes, shown.WellTyped kind := by
  intro shown hshown
  obtain ⟨i, hi, hshown⟩ := List.mem_iff_getElem.mp hshown
  have hspec : i < m.specs.length := h.count ▸ hi
  have hraw : i < values.length := hanswered.length_eq ▸ hspec
  have hreports : shown.Reports m.specs[i] values[i] :=
    h.reported i shown _ _ (List.getElem?_eq_some_iff.mpr ⟨hi, hshown⟩)
      (List.getElem?_eq_getElem hspec) (List.getElem?_eq_getElem hraw)
  exact hreports.wellTyped (hvalues _ (List.getElem_mem hraw))

/-- Every attribute of every success is well typed, whatever the request is. -/
def Registry.WellTyped (registry : Registry) : Prop :=
  ∀ (kind : BackendKind) (type mapping : String) (selector : Selector) (body : List UInt8),
    ∀ response ∈
        (queryContext registry kind type mapping selector body).result.envelope.responses,
      response.status.code = "200" →
        ∀ shown ∈ response.element.attributes, shown.WellTyped kind

theorem Registry.wellTyped_of_supplied {registry : Registry}
    (hsupplied : ∀ backend ∈ registry.backends, backend.Supplied) : registry.WellTyped := by
  intro kind type mapping selector body response hresponse hcode
  rcases queryContext_served_or_failed registry kind type mapping selector body with
    ⟨m, values, hserved⟩ | ⟨entity, error, hanswer⟩
  · obtain ⟨entity, hanswer⟩ := queryContext_of_served hserved
    obtain ⟨backend, hfound, hfetch⟩ := hserved.fetched
    obtain rfl := Registry.kind_of_find? hfound
    rw [hanswer, List.mem_singleton] at hresponse
    rw [hresponse]
    exact (entity.complete_complete hserved.answered).wellTyped hserved.answered
      ((hsupplied backend (Registry.mem_of_find? hfound)).wellTyped hfetch)
  · rw [hanswer, List.mem_singleton] at hresponse
    rw [hresponse] at hcode
    exact absurd hcode (entity.failed_failed error).code_ne

/-- The successes of supplied backends are well typed. A configured service has no other backends,
over whatever network and with whatever draws. -/
theorem successes_wellTyped :
    (∀ registry : Registry, (∀ backend ∈ registry.backends, backend.Supplied) →
      registry.WellTyped) ∧
    (∀ (config : Config) (network : Network) (draws : Random.Draws) (registry : Registry),
      config.backends network draws = .ok registry → registry.WellTyped) :=
  ⟨fun _ hsupplied ↦ Registry.wellTyped_of_supplied hsupplied,
    fun _ _ _ _ hbackends ↦ Registry.wellTyped_of_supplied (Config.supplied_backends hbackends)⟩

/-- Backends over random words that are all the same, the builtin fixtures, and an observation with
a text for a number. -/
def sampleRegistry : Registry :=
  ⟨[Random.backend (.ofWords fun _ _ _ ↦ 7), FixtureTable.backend .builtin,
    Observation.backend
      (fun _ ↦ .now (.ok [("humidity", .string " 62 %"), ("wind", .number (.integer (-7)))])) 0]⟩

/-- A service with its data sources on the same host. -/
def sampleConfig : Config where
  search := { baseUrl := "http://[::1]:8080" }
  observation := { baseUrl := "http://[::1]:8080", apiKey := some "k3y" }

/-- A success with a text that spells a number, and a service over a network without replies. -/
theorem sample_wellTyped :
    (∀ backend ∈ sampleRegistry.backends, backend.Supplied) ∧ sampleRegistry.WellTyped ∧
      (queryContext sampleRegistry .weather "number" "humidity,wind" (.ofText "Berlin")
        []).result.envelope.statusNumber = 200 ∧
      ∃ registry, sampleConfig.backends .unreachable (.ofWords fun _ _ _ ↦ 7) = .ok registry ∧
        registry.WellTyped := by
  have hrange : ∀ place milliseconds observation,
      (fun _ : String ↦ Arrival.now (.ok
        [("humidity", .string " 62 %"), ("wind", .number (.integer (-7)))])) place =
          .after milliseconds (.ok observation) → Observation.InRange observation := by
    rintro place milliseconds observation h field n hfield
    cases h
    obtain ⟨member, hmember, hn⟩ := Fields.mem_of_get? hfield
    simp only [List.mem_cons, List.not_mem_nil, or_false] at hmember
    rcases hmember with rfl | rfl <;> cases hn
    exact ⟨by decide, by decide⟩
  have hsupplied : ∀ backend ∈ sampleRegistry.backends, backend.Supplied := by
    obtain ⟨definitions, haccepted⟩ := FixtureTable.exists_ofDefs_eq_builtin
    simp only [sampleRegistry, List.forall_mem_cons]
    exact ⟨.random _, .static haccepted, .observation hrange 0, List.forall_mem_nil _⟩
  have hbase : Url.ofText "http://[::1]:8080" = .ok ⟨"http", "", none,
      some (.address6 [0, 0, 0, 0, 0, 0, 0, 1]), some 8080, [""], none, none⟩ := by
    decide +kernel
  obtain ⟨search, hsearch⟩ :
      ∃ client, SearchClient.ofConfig sampleConfig.search = .ok client :=
    ⟨_, by rw [SearchClient.ofConfig, sampleConfig, hbase]; rfl⟩
  obtain ⟨observation, hobservation⟩ :
      ∃ client, ObservationClient.ofConfig sampleConfig.observation = .ok client :=
    ⟨_, by rw [ObservationClient.ofConfig, sampleConfig, hbase]; rfl⟩
  obtain ⟨registry, hregistry⟩ := @Config.exists_backends sampleConfig _ _ rfl hsearch hobservation
    .unreachable (.ofWords fun _ _ _ ↦ 7)
  exact ⟨hsupplied, successes_wellTyped.1 _ hsupplied, by decide +kernel, registry, hregistry,
    successes_wellTyped.2 _ _ _ _ hregistry⟩

end ContextProvider
