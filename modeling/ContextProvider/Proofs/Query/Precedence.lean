import ContextProvider.Proofs.Backend.Contract
import ContextProvider.Proofs.Query.Course

/-!
# Questions and refusals

A request to a live kind passes five checks in turn: its body, its mapping, the backend of its
kind, the shapes of its attributes and its selector. If it passes all of them, the source of the
kind is asked once, with the selector as it was given; the answer of the source does not lead to
another question. Otherwise nothing is asked, and the answer is the error of the first check that
the request does not pass.

What counts as asked is confirmed from outside: sources that agree on the questions asked cannot
be told apart by the answer.
-/

namespace ContextProvider

/-! ## The checks in turn -/

section

variable (registry : Registry) (kind : BackendKind) (type mapping : String)
  (given : Option String) (body : List UInt8)

/-- A request is read, and there is a backend to hand it to. -/
structure Handed (entity : Entity) (m : Mapping) (backend : Backend) : Prop where
  read : readEntity body = .ok entity
  parsed : Mapping.parse type mapping = .ok m
  found : registry.find? kind = some backend

/-- The first check that a request does not pass, with the entity of the answer and the error. -/
inductive Refused : Entity → QueryError → Prop
  | body {error : QueryError} (read : readEntity body = .error error) : Refused .unnamed error
  | mapping {entity : Entity} {fault : MappingFault} (read : readEntity body = .ok entity)
      (parsed : Mapping.parse type mapping = .error fault) : Refused entity fault.toQueryError
  | registration {entity : Entity} {m : Mapping} (read : readEntity body = .ok entity)
      (parsed : Mapping.parse type mapping = .ok m) (found : registry.find? kind = none) :
      Refused entity (.inconsistent ("No backend registered for '" ++ kind.word ++ "'"))
  | shape {entity : Entity} {m : Mapping} {backend : Backend} {shape : Shape}
      {question : String → Question} {before after : List AttributeSpec} {spec : AttributeSpec}
      (handed : Handed registry kind type mapping body entity m backend)
      (live : kind.live? = some (shape, question)) (specs : m.specs = before ++ spec :: after)
      (fit : ∀ other ∈ before, other.shape = shape) (misfit : spec.shape ≠ shape) :
      Refused entity (.unsupportedShape kind spec.name spec.shape)
  | selector {entity : Entity} {m : Mapping} {backend : Backend} {shape : Shape}
      {question : String → Question}
      (handed : Handed registry kind type mapping body entity m backend)
      (live : kind.live? = some (shape, question)) (fit : ∀ spec ∈ m.specs, spec.shape = shape)
      (blank : ∀ text, given = some text → Text.isBlank text = true) :
      Refused entity (.invalidRequest ("The " ++ kind.word ++ " backend requires a queryString"))

/-- A request passes every check, and this is the question that it comes to. -/
inductive Cleared : Question → Prop
  | intro {entity : Entity} {m : Mapping} {backend : Backend} {shape : Shape}
      {question : String → Question} {text : String}
      (handed : Handed registry kind type mapping body entity m backend)
      (live : kind.live? = some (shape, question)) (fit : ∀ spec ∈ m.specs, spec.shape = shape)
      (selected : given = some text) (present : Text.isBlank text = false) :
      Cleared (question text)

variable {registry kind type mapping given body}

theorem Handed.queryContext_eq {entity : Entity} {m : Mapping} {backend : Backend}
    (handed : Handed registry kind type mapping body entity m backend) (selector : Selector) :
    queryContext registry kind type mapping selector body =
      ⟨assemble entity m (backend.fetch m selector).result,
        (backend.fetch m selector).questions⟩ :=
  (Course.fetched handed.read handed.parsed handed.found).eq_queryContext

/-- A request to a live kind passes every check, or there is a first one that it does not pass. -/
theorem exists_cleared_or_exists_refused (hlive : kind.live? ≠ none) :
    (∃ question, Cleared registry kind type mapping given body question) ∨
      ∃ entity error, Refused registry kind type mapping given body entity error := by
  obtain ⟨⟨shape, question⟩, hlive⟩ := Option.ne_none_iff_exists'.mp hlive
  have hcourse := queryContext_course registry kind type mapping (.ofText? given) body
  generalize queryContext registry kind type mapping (.ofText? given) body = answer at hcourse
  cases hcourse with
  | unreadable read => exact .inr ⟨_, _, .body read⟩
  | unparsed read parsed => exact .inr ⟨_, _, .mapping read parsed⟩
  | unregistered read parsed found => exact .inr ⟨_, _, .registration read parsed found⟩
  | @fetched entity m backend read parsed found =>
    have handed : Handed registry kind type mapping body entity m backend := ⟨read, parsed, found⟩
    rcases Live.fit_or_misfit shape m with hfit | ⟨before, spec, after, hspecs, hbefore, hspec⟩
    · cases hvalue : (Selector.ofText? given).value? with
      | none =>
        have hblank := Selector.value?_ofText?_eq_none_iff.mp hvalue
        exact .inr ⟨_, _, .selector handed hlive hfit hblank⟩
      | some text =>
        obtain ⟨hselected, hpresent⟩ := Selector.value?_ofText?_eq_some_iff.mp hvalue
        exact .inl ⟨_, .intro handed hlive hfit hselected hpresent⟩
    · exact .inr ⟨_, _, .shape handed hlive hspecs hbefore hspec⟩

variable (shipped : ∀ backend, registry.find? kind = some backend → backend.Shipped)

include shipped

/-- The backend of a live kind is one that asks a source. -/
theorem Handed.exists_source {entity : Entity} {m : Mapping} {backend : Backend} {shape : Shape}
    {question : String → Question}
    (handed : Handed registry kind type mapping body entity m backend)
    (hlive : kind.live? = some (shape, question)) :
    ∃ (α : Type) (source : String → Arrival α) (limit : Nat)
      (read : AttributeSpec → α → Except FetchError AttributeValue),
      backend = Live.backend kind shape question source limit read := by
  obtain rfl := Registry.kind_of_find? handed.found
  exact (shipped backend handed.found).exists_source hlive

/-- The first check that is not passed gives the answer, and nothing is asked. -/
theorem Refused.queryContext_eq {entity : Entity} {error : QueryError}
    (h : Refused registry kind type mapping given body entity error) :
    queryContext registry kind type mapping (.ofText? given) body =
      .silent (.failure entity error) := by
  cases h with
  | body read => exact (Course.unreadable read).eq_queryContext
  | mapping read parsed => exact (Course.unparsed read parsed).eq_queryContext
  | registration read parsed found => exact (Course.unregistered read parsed found).eq_queryContext
  | shape handed live specs fit misfit =>
    obtain ⟨α, source, limit, read, rfl⟩ := handed.exists_source shipped live
    rw [handed.queryContext_eq, (Live.Turn.misfit specs fit misfit).eq_fetch]
    rfl
  | selector handed live fit blank =>
    obtain ⟨α, source, limit, read, rfl⟩ := handed.exists_source shipped live
    have hmissing := Selector.value?_ofText?_eq_none_iff.mpr blank
    rw [handed.queryContext_eq, (Live.Turn.missing fit hmissing).eq_fetch]
    rfl

theorem Cleared.questions_eq {question : Question}
    (h : Cleared registry kind type mapping given body question) :
    (queryContext registry kind type mapping (.ofText? given) body).questions = [question] := by
  obtain ⟨handed, live, fit, selected, present⟩ := h
  obtain ⟨α, source, limit, read, rfl⟩ := handed.exists_source shipped live
  have hgiven := Selector.value?_ofText?_eq_some_iff.mpr ⟨selected, present⟩
  rw [handed.queryContext_eq, (Live.Turn.asked fit hgiven).eq_fetch]

theorem questions_eq_nil_of_not_cleared
    (h : ∀ question, ¬ Cleared registry kind type mapping given body question) :
    (queryContext registry kind type mapping (.ofText? given) body).questions = [] := by
  by_cases hlive : kind.live? = none
  · have hcourse := queryContext_course registry kind type mapping (.ofText? given) body
    generalize queryContext registry kind type mapping (.ofText? given) body = answer at hcourse ⊢
    cases hcourse with
    | unreadable | unparsed | unregistered => rfl
    | fetched read parsed found =>
      rw [← Registry.kind_of_find? found] at hlive
      exact (shipped _ found).questions_of_not_live hlive
  · rcases exists_cleared_or_exists_refused hlive with ⟨question, hcleared⟩ | ⟨_, _, hrefused⟩
    · exact absurd hcleared (h question)
    · rw [hrefused.queryContext_eq shipped]
      rfl

omit shipped

/-! ## Sources that agree -/

/-- Two backends that differ at most in what their sources answer when they are not asked. -/
inductive Backend.AgreeOn (asked : List Question) : Backend → Backend → Prop
  | refl (backend : Backend) : AgreeOn asked backend backend
  | live {α : Type} {kind : BackendKind} {shape : Shape} {question : String → Question}
      {source other : String → Arrival α} {limit : Nat}
      {read : AttributeSpec → α → Except FetchError AttributeValue}
      (agree : ∀ text, question text ∈ asked → source text = other text) :
      AgreeOn asked (Live.backend kind shape question source limit read)
        (Live.backend kind shape question other limit read)

theorem Backend.AgreeOn.fetch_eq {backend other : Backend} {m : Mapping} {selector : Selector}
    (h : AgreeOn (backend.fetch m selector).questions backend other) :
    other.fetch m selector = backend.fetch m selector := by
  generalize hasked : (backend.fetch m selector).questions = asked at h
  cases h with
  | refl => rfl
  | live agree => exact Live.fetch_congr (hasked ▸ agree)

/-- Backends whose sources agree on the questions asked give the same answer. -/
theorem queryContext_eq_of_agreeOn {other : Registry} {selector : Selector}
    (h : Option.Rel
      (Backend.AgreeOn (queryContext registry kind type mapping selector body).questions)
      (registry.find? kind) (other.find? kind)) :
    queryContext other kind type mapping selector body =
      queryContext registry kind type mapping selector body := by
  have hcourse := queryContext_course registry kind type mapping selector body
  generalize queryContext registry kind type mapping selector body = answer at hcourse h ⊢
  cases hcourse with
  | unreadable read => exact (Course.unreadable read).eq_queryContext
  | unparsed read parsed => exact (Course.unparsed read parsed).eq_queryContext
  | unregistered read parsed found =>
    rw [found] at h
    cases hother : other.find? kind with
    | none => exact (Course.unregistered read parsed hother).eq_queryContext
    | some backend =>
      rw [hother] at h
      cases h
  | fetched read parsed found =>
    rw [found] at h
    cases hother : other.find? kind with
    | none =>
      rw [hother] at h
      cases h
    | some backend =>
      rw [hother] at h
      cases h with
      | some agree =>
        rw [(Course.fetched read parsed hother).eq_queryContext, agree.fetch_eq]

/-- A request that passes every check asks its own question, once. Any other request asks nothing,
and the first check that it does not pass gives the answer. -/
theorem asks_once_or_refuses (type mapping : String) (given : Option String) (body : List UInt8)
    (shipped : ∀ backend, registry.find? kind = some backend → backend.Shipped) :
    (∀ question, Cleared registry kind type mapping given body question →
      (queryContext registry kind type mapping (.ofText? given) body).questions = [question]) ∧
    ((∀ question, ¬ Cleared registry kind type mapping given body question) →
      (queryContext registry kind type mapping (.ofText? given) body).questions = []) ∧
    (∀ entity error, Refused registry kind type mapping given body entity error →
      queryContext registry kind type mapping (.ofText? given) body =
        .silent (.failure entity error)) ∧
    (kind.live? ≠ none →
      (∃ question, Cleared registry kind type mapping given body question) ∨
        ∃ entity error, Refused registry kind type mapping given body entity error) ∧
    ∀ other : Registry,
      Option.Rel
        (Backend.AgreeOn (queryContext registry kind type mapping (.ofText? given) body).questions)
        (registry.find? kind) (other.find? kind) →
      queryContext other kind type mapping (.ofText? given) body =
        queryContext registry kind type mapping (.ofText? given) body :=
  ⟨fun _ hcleared ↦ hcleared.questions_eq shipped,
    fun hnone ↦ questions_eq_nil_of_not_cleared shipped hnone,
    fun _ _ hrefused ↦ hrefused.queryContext_eq shipped,
    fun hlive ↦ exists_cleared_or_exists_refused hlive,
    fun _ hagree ↦ queryContext_eq_of_agreeOn hagree⟩

end

/-- A search that is out of order and an observatory that never answers. -/
def silentSources : Registry where
  backends := [Search.backend (fun _ ↦ .now (.error .rateLimited)) 5,
    Observation.backend (fun _ ↦ .never) 5]

/-- A good request to the observatory, and one with a list attribute and a blank selector. -/
theorem silentSources_ask_or_refuse :
    (∀ backend, silentSources.find? .weather = some backend → backend.Shipped) ∧
    (queryContext silentSources .weather "number" "temp:temp_c, pressure"
      (.ofText? (some " Oslo")) []).questions = [.observation " Oslo"] ∧
    queryContext silentSources .weather "number" "pressure, rain:array" (.ofText? (some " ")) [] =
      .silent (.failure .unnamed (.unsupportedShape .weather "rain" .list)) := by
  have hshipped : ∀ backend, silentSources.find? .weather = some backend → backend.Shipped := by
    intro backend h
    cases h
    exact .observation _ _
  refine ⟨hshipped, ?_, ?_⟩
  · have hparsed : Mapping.parse "number" "temp:temp_c, pressure" =
        .ok ⟨[⟨"temp", "temp_c", .scalar⟩, .scalar "pressure"],
          by decide, by decide, by decide⟩ := rfl
    exact (asks_once_or_refuses "number" "temp:temp_c, pressure" (some " Oslo") [] hshipped).1 _
      (.intro ⟨rfl, hparsed, rfl⟩ rfl (by decide) rfl rfl)
  · have hparsed : Mapping.parse "number" "pressure, rain:array" =
        .ok ⟨[.scalar "pressure", .list "rain"], by decide, by decide, by decide⟩ := rfl
    have hspecs : [AttributeSpec.scalar "pressure", .list "rain"] =
        [.scalar "pressure"] ++ .list "rain" :: [] := rfl
    exact (asks_once_or_refuses "number" "pressure, rain:array" (some " ") [] hshipped).2.2.1 _ _
      (.shape ⟨rfl, hparsed, rfl⟩ rfl hspecs (by decide) (by decide))

end ContextProvider
