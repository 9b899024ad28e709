import ContextProvider.Envelope.Wire
import ContextProvider.Proofs.Client.Failure
import ContextProvider.Proofs.Query.Precedence

/-!
# What a failing source gives away

A request that passes all checks of a live kind either succeeds or is answered with one envelope,
which names the entity and the backend and nothing else. It is the same for every failure of the
source: whatever an error says, whatever a reply holds, and at whichever stage an exchange went
wrong. What is kept for the log is not part of it.
-/

namespace ContextProvider

/-! ## Failing backends -/

/-- A backend whose source does not give the attributes values for the text it is asked with. The
source of a client fails with the exchange. -/
inductive Backend.FailsAt (specs : List AttributeSpec) (text : String) : Backend → Prop
  | search {source : String → Arrival (List Json.Fields)} {limit : Nat}
      (fails : Live.Fails Search.column specs limit (source text)) :
      FailsAt specs text (Search.backend source limit)
  | observation {source : String → Arrival Json.Fields} {limit : Nat}
      (fails : Live.Fails Observation.reading specs limit (source text)) :
      FailsAt specs text (Observation.backend source limit)
  | searchClient {client : SearchClient} {network : Network} {limit : Nat}
      (fails : FetchRequest.Fails network (client.request text) SearchClient.results Search.column
        specs limit) : FailsAt specs text (client.backend network limit)
  | observationClient {client : ObservationClient} {network : Network} {limit : Nat}
      (fails : FetchRequest.Fails network (client.request text) ObservationClient.observation
        Observation.reading specs limit) : FailsAt specs text (client.backend network limit)

section

variable {backend : Backend} {m : Mapping} {selector : Selector} {shape : Shape}
  {question : String → Question} {text : String}

theorem Backend.FailsAt.exists_cause (h : backend.FailsAt m.specs text)
    (hlive : backend.kind.live? = some (shape, question))
    (hfit : ∀ spec ∈ m.specs, spec.shape = shape) (hgiven : selector.value? = some text) :
    ∃ cause, (backend.fetch m selector).result = .error (.unavailable backend.kind cause) := by
  cases h with
  | search fails =>
    cases hlive
    exact Live.result_of_fails _ _ _ hfit hgiven fails
  | observation fails =>
    cases hlive
    exact Live.result_of_fails _ _ _ hfit hgiven fails
  | searchClient fails =>
    cases hlive
    exact Live.result_of_fails _ _ _ hfit hgiven ((SearchClient.fails_search_iff _ _).mpr fails)
  | observationClient fails =>
    cases hlive
    exact Live.result_of_fails _ _ _ hfit hgiven
      ((ObservationClient.fails_observe_iff _ _).mpr fails)

theorem Backend.Shipped.failsAt_of_error (shipped : backend.Shipped)
    (hlive : backend.kind.live? = some (shape, question))
    (hfit : ∀ spec ∈ m.specs, spec.shape = shape) (hgiven : selector.value? = some text)
    {error : QueryError} (h : (backend.fetch m selector).result = .error error) :
    backend.FailsAt m.specs text := by
  cases shipped with
  | random draws => cases hlive
  | static table => cases hlive
  | search source limit =>
    cases hlive
    exact .search (Live.fails_of_result hfit hgiven h)
  | observation source limit =>
    cases hlive
    exact .observation (Live.fails_of_result hfit hgiven h)

end

/-! ## The one answer to every failure -/

/-- The envelope that names an entity and an unavailable backend. -/
def Entity.unavailable (entity : Entity) (kind : BackendKind) : Envelope where
  responses := [{
    element := { type := entity.type, isPattern := "false", id := entity.id, attributes := [] }
    status := {
      code := "500"
      reasonPhrase := "Internal Server Error"
      details := some ("Backend '" ++ kind.word ++ "' is unavailable") } }]

theorem QueryError.status_unavailable (kind : BackendKind) (cause : FetchError) :
    (unavailable kind cause).status = ⟨"500", "Internal Server Error",
      some ("Backend '" ++ kind.word ++ "' is unavailable")⟩ :=
  status_of_server_error rfl

/-- The cause of an error is not shown. -/
theorem Entity.failed_unavailable (entity : Entity) (kind : BackendKind) (cause : FetchError) :
    ⟨[entity.failed (.unavailable kind cause)]⟩ = entity.unavailable kind := by
  rw [failed, QueryError.status_unavailable]
  rfl

theorem Entity.statusNumber_unavailable (entity : Entity) (kind : BackendKind) :
    (entity.unavailable kind).statusNumber = 500 := by
  rw [← entity.failed_unavailable kind .timeout, statusNumber_failed]
  rfl

/-! ## Requests that reach their source -/

/-- A request to a live kind that passes the checks of its body, its mapping, the shapes of its
attributes and its selector. -/
structure Admitted (kind : BackendKind) (type mapping : String) (given : Option String)
    (body : List UInt8) (entity : Entity) (m : Mapping) (text : String) : Prop where
  read : readEntity body = .ok entity
  parsed : Mapping.parse type mapping = .ok m
  fit : ∃ (shape : Shape) (question : String → Question), kind.live? = some (shape, question) ∧
    ∀ spec ∈ m.specs, spec.shape = shape
  selected : given = some text
  present : Text.isBlank text = false

section

variable {kind : BackendKind} {type mapping : String} {given : Option String} {body : List UInt8}
  {entity : Entity} {m : Mapping} {text : String} {registry : Registry} {backend : Backend}

namespace Admitted

theorem value?_eq (admitted : Admitted kind type mapping given body entity m text) :
    (Selector.ofText? given).value? = some text :=
  Selector.value?_ofText?_eq_some_iff.mpr ⟨admitted.selected, admitted.present⟩

theorem handed (admitted : Admitted kind type mapping given body entity m text)
    (hfound : registry.find? kind = some backend) :
    Handed registry kind type mapping body entity m backend :=
  ⟨admitted.read, admitted.parsed, hfound⟩

theorem envelope_of_failsAt (admitted : Admitted kind type mapping given body entity m text)
    (hfound : registry.find? kind = some backend) (hfails : backend.FailsAt m.specs text) :
    (queryContext registry kind type mapping (.ofText? given) body).result.envelope =
      entity.unavailable kind := by
  obtain ⟨shape, question, hlive, hfit⟩ := admitted.fit
  obtain rfl := Registry.kind_of_find? hfound
  obtain ⟨cause, hcause⟩ := hfails.exists_cause hlive hfit admitted.value?_eq
  rw [(admitted.handed hfound).queryContext_eq, hcause]
  exact entity.failed_unavailable backend.kind cause

theorem failsAt_of_statusNumber_ne
    (admitted : Admitted kind type mapping given body entity m text)
    (hfound : registry.find? kind = some backend) (shipped : backend.Shipped)
    (h : (queryContext registry kind type mapping (.ofText? given)
      body).result.envelope.statusNumber ≠ 200) : backend.FailsAt m.specs text := by
  obtain ⟨shape, question, hlive, hfit⟩ := admitted.fit
  rw [(admitted.handed hfound).queryContext_eq] at h
  obtain rfl := Registry.kind_of_find? hfound
  cases hfetch : (backend.fetch m (.ofText? given)).result with
  | error error => exact shipped.failsAt_of_error hlive hfit admitted.value?_eq hfetch
  | ok values =>
    rw [hfetch, assemble_of_answered entity (shipped.answeredBy hfetch)] at h
    exact absurd (entity.statusNumber_complete m values) h

/-- An admitted request is refused exactly if the source fails. -/
theorem statusNumber_ne_iff
    (admitted : Admitted kind type mapping given body entity m text)
    (hfound : registry.find? kind = some backend) (shipped : backend.Shipped) :
    (queryContext registry kind type mapping (.ofText? given) body).result.envelope.statusNumber ≠
      200 ↔ backend.FailsAt m.specs text := by
  refine ⟨admitted.failsAt_of_statusNumber_ne hfound shipped, fun hfails ↦ ?_⟩
  rw [admitted.envelope_of_failsAt hfound hfails, entity.statusNumber_unavailable]
  decide

end Admitted

/-- The answer to an admitted request tells whether the source failed and, if it did, no more than
that: any two failures have the same envelope, to the letter. -/
theorem failures_are_alike {other : Registry} {rival : Backend}
    (admitted : Admitted kind type mapping given body entity m text)
    (found : registry.find? kind = some backend) (shipped : backend.Shipped)
    (found' : other.find? kind = some rival) (shipped' : rival.Shipped) :
    ((queryContext registry kind type mapping (.ofText? given) body).result.envelope.statusNumber ≠
        200 ↔ backend.FailsAt m.specs text) ∧
    ((queryContext other kind type mapping (.ofText? given) body).result.envelope.statusNumber ≠
        200 ↔ rival.FailsAt m.specs text) ∧
    (backend.FailsAt m.specs text → rival.FailsAt m.specs text →
      (queryContext registry kind type mapping (.ofText? given) body).result.envelope =
        entity.unavailable kind ∧
      (queryContext other kind type mapping (.ofText? given) body).result.envelope =
        entity.unavailable kind ∧
      (queryContext registry kind type mapping (.ofText? given) body).result.envelope.text =
        (queryContext other kind type mapping (.ofText? given) body).result.envelope.text) := by
  refine ⟨admitted.statusNumber_ne_iff found shipped, admitted.statusNumber_ne_iff found' shipped',
    fun hfails hfails' ↦ ?_⟩
  have hone := admitted.envelope_of_failsAt found hfails
  have hother := admitted.envelope_of_failsAt found' hfails'
  exact ⟨hone, hother, by rw [hone, hother]⟩

end

/-- A search client with the given token. -/
def clientWith (token : Option String) : SearchClient where
  base := ⟨"https", "", none, none, none, [], none, none⟩
  token := token
  count := 15

/-- The network in which every token has expired, and every reply repeats a secret. -/
def expiredTokens : Network :=
  fun _ ↦ .after 2 (.ok ⟨401, none, some (Text.toUtf8 "token 5ecret has expired")⟩)

/-- A client without a token and one whose token has expired. -/
theorem missing_token_is_like_expired_token :
    Admitted .twitter "list" "tweets" (some "madrid") [] .unnamed
      ⟨[.list "tweets"], by decide, by decide, by decide⟩ "madrid" ∧
    (queryContext ⟨[(clientWith none).backend .unreachable 5]⟩ .twitter "list" "tweets"
        (.ofText? (some "madrid")) []).result.envelope = Entity.unnamed.unavailable .twitter ∧
    (queryContext ⟨[(clientWith none).backend .unreachable 5]⟩ .twitter "list" "tweets"
        (.ofText? (some "madrid")) []).result.envelope.text =
      (queryContext ⟨[(clientWith (some "5ecret")).backend expiredTokens 5]⟩ .twitter "list"
        "tweets" (.ofText? (some "madrid")) []).result.envelope.text := by
  have hadmitted : Admitted .twitter "list" "tweets" (some "madrid") [] .unnamed
      ⟨[.list "tweets"], by decide, by decide, by decide⟩ "madrid" :=
    ⟨rfl, rfl, ⟨_, _, rfl, by decide⟩, rfl, rfl⟩
  have hmissing : ((clientWith none).backend .unreachable 5).FailsAt [.list "tweets"] "madrid" :=
    .searchClient (.unsent rfl)
  have hexpired :
      ((clientWith (some "5ecret")).backend expiredTokens 5).FailsAt [.list "tweets"] "madrid" := by
    apply Backend.FailsAt.searchClient
    cases hmade : (clientWith (some "5ecret")).request "madrid" with
    | error error => exact .unsent rfl
    | ok sent => exact .refused rfl rfl rfl
  have hone : (Registry.mk [(clientWith none).backend .unreachable 5]).find? .twitter =
      some ((clientWith none).backend .unreachable 5) := rfl
  have hother :
      (Registry.mk [(clientWith (some "5ecret")).backend expiredTokens 5]).find? .twitter =
        some ((clientWith (some "5ecret")).backend expiredTokens 5) := rfl
  obtain ⟨-, -, halike⟩ := failures_are_alike hadmitted hone (.search _ _) hother (.search _ _)
  obtain ⟨henvelope, -, htext⟩ := halike hmissing hexpired
  exact ⟨hadmitted, henvelope, htext⟩

end ContextProvider
