import ContextProvider.Proofs.Query.Echo
import ContextProvider.Proofs.Route.Server
import Mathlib.Data.List.Nodup

/-!
# Discovery and dispatch

Backends are registered in any order, and there may be several of one kind, of which the last one
counts. Discovery lists the presets whose kind has a backend, each of them once and in their own
order. These are the presets that are handed to a backend, the one that counts for their kind. Any
other preset is answered with one and the same error envelope, and so is every query to a kind
without a backend; no data source is asked for them.
-/

namespace ContextProvider

open Text

/-! ## The backend that counts -/

/-- The backend is of the given kind, and the last one of that kind in a list. -/
structure Backend.LastOf (kind : BackendKind) (backends : List Backend) (backend : Backend) :
    Prop where
  fits : backend.kind = kind
  last : ∃ before after, backends = before ++ backend :: after ∧
    ∀ later ∈ after, later.kind ≠ kind

theorem BackendKind.mem_all (kind : BackendKind) : kind ∈ all := by
  cases kind <;> decide

/-- A word stands for the kind whose word it is, and for no other. -/
theorem BackendKind.ofWord?_eq_some_iff {s : String} {kind : BackendKind} :
    ofWord? s = some kind ↔ s = kind.word := by
  constructor
  · intro h
    rw [ofWord?] at h
    have hword := List.find?_some h
    exact (beq_iff_eq.mp hword).symm
  · rintro rfl
    cases kind <;> rfl

namespace Registry

variable {registry : Registry} {kind : BackendKind} {backend : Backend}

theorem find?_eq_some_iff :
    registry.find? kind = some backend ↔ backend.LastOf kind registry.backends := by
  rw [find?, List.find?_eq_some_iff_append]
  constructor
  · rintro ⟨hkind, after, before, hsplit, hafter⟩
    refine ⟨by simpa using hkind, before.reverse, after.reverse, ?_, by simpa using hafter⟩
    simpa using congrArg List.reverse hsplit
  · rintro ⟨hkind, before, after, hsplit, hafter⟩
    refine ⟨by simpa using hkind, after.reverse, before.reverse, ?_, by simpa using hafter⟩
    simp [hsplit]

theorem find?_eq_none_iff :
    registry.find? kind = none ↔ ∀ backend ∈ registry.backends, backend.kind ≠ kind := by
  simp [find?]

theorem mem_kinds_iff : kind ∈ registry.kinds ↔ ∃ backend, registry.find? kind = some backend := by
  rw [kinds, List.mem_filter, Option.isSome_iff_exists, and_iff_right kind.mem_all]

end Registry

/-! ## Listed presets -/

/-- No two presets share a path, since each path leads to its own preset. -/
theorem Preset.eq_of_url_eq {preset other : Preset} (hpreset : preset ∈ all) (hother : other ∈ all)
    (h : preset.url = other.url) : preset = other := by
  have hfound := Route.find?_url preset hpreset
  rw [h, Route.find?_url other hother] at hfound
  cases hfound
  rfl

theorem Preset.nodup_urls : (all.map url).Nodup := by
  have hall : all.Nodup := by decide
  exact List.Nodup.map_on (fun _ hpreset _ hother ↦ eq_of_url_eq hpreset hother) hall

theorem Preset.exists_parse_eq_ok : ∀ preset ∈ all, ∃ m,
    Mapping.parse preset.type preset.mapping = .ok m := by
  have hparsed : ∀ preset ∈ all,
      (Mapping.parse preset.type preset.mapping).toOption.isSome := by
    decide +kernel
  intro preset hpreset
  obtain ⟨m, hm⟩ := Option.isSome_iff_exists.mp (hparsed preset hpreset)
  cases hparse : Mapping.parse preset.type preset.mapping with
  | error fault => simp [hparse, Except.toOption] at hm
  | ok m => exact ⟨m, rfl⟩

namespace Server

variable {registry : Registry} {preset : Preset}

theorem contextUrls_sublist (registry : Registry) :
    (contextUrls registry).Sublist (Preset.all.map Preset.url) :=
  List.filter_sublist.map _

theorem url_mem_contextUrls_iff (hpreset : preset ∈ Preset.all) :
    preset.url ∈ contextUrls registry ↔
      ∃ backend, registry.find? preset.backend = some backend := by
  rw [← Registry.mem_kinds_iff, contextUrls, List.mem_map]
  constructor
  · rintro ⟨other, hother, hurl⟩
    rw [List.mem_filter] at hother
    cases Preset.eq_of_url_eq hother.1 hpreset hurl
    simpa using hother.2
  · intro hkind
    exact ⟨preset, List.mem_filter.mpr ⟨hpreset, by simpa using hkind⟩, rfl⟩

theorem find?_discovery : ∀ path ∈ ["/proxy/v1", "/proxy/v1/"],
    Route.find? (RequestTarget.path path) = some (.discovery, []) := by
  have hfound : ∀ segments ∈ [["proxy", "v1"], ["proxy", "v1", ""]],
      Route.find? (RequestTarget.path (joined "/" ("" :: segments))) = some (.discovery, []) := by
    intro segments hsegments
    rw [Route.find?_joined (by rintro rfl; simp at hsegments) (by revert segments; decide),
      Route.all_eq]
    revert segments
    decide
  simpa [joined, String.intercalate_cons_cons] using hfound

end Server

/-! ## Requests that are read -/

/-- A body within the size limit that is blank or the text of a request, and the entity that it is
about. A larger body is refused before it is read. -/
structure Readable (body : List UInt8) (entity : Entity) : Prop where
  size : body.length ≤ 2097152
  about : body.all isBodyBlank ∧ entity = .unnamed ∨
    ∃ entities, Requests body entities ∧ entity = entities.headD .unnamed

theorem readable_iff {body : List UInt8} {entity : Entity} :
    Readable body entity ↔ body.length ≤ 2097152 ∧ readEntity body = .ok entity := by
  constructor
  · rintro ⟨hsize, ⟨hblank, rfl⟩ | ⟨entities, hrequests, rfl⟩⟩
    · exact ⟨hsize, readEntity_of_blank hblank⟩
    · exact ⟨hsize, readEntity_of_requests hrequests⟩
  · rintro ⟨hsize, hread⟩
    refine ⟨hsize, ?_⟩
    by_cases hblank : body.all isBodyBlank
    · cases (readEntity_of_blank hblank).symm.trans hread
      exact .inl ⟨hblank, rfl⟩
    · by_cases hrequests : ∃ entities, Requests body entities
      · obtain ⟨entities, hrequests⟩ := hrequests
        cases (readEntity_of_requests hrequests).symm.trans hread
        exact .inr ⟨entities, hrequests, rfl⟩
      · cases (readEntity_of_refused hblank (not_exists.mp hrequests)).symm.trans hread

/-! ## Dispatch -/

/-- The reply to a request that is handed to a backend. -/
def Backend.reply (backend : Backend) (entity : Entity) (m : Mapping) (selector : Selector) :
    Traced ServerResponse :=
  Traced.reply
    ⟨assemble entity m (backend.fetch m selector).result, (backend.fetch m selector).questions⟩

/-- The reply to a request that no backend can be found for. -/
def unregisteredReply (entity : Entity) : ServerResponse where
  status := 200
  headers := [("content-type", "application/json"), ("access-control-allow-origin", "*")]
  body := (Envelope.mk [{
    element := { type := entity.type, isPattern := "false", id := entity.id, attributes := [] }
    status := {
      code := "500"
      reasonPhrase := "Internal Server Error"
      details := some "Backend returned an inconsistent result" } }]).text

theorem QueryError.status_inconsistent (reason : String) : (inconsistent reason).status =
    ⟨"500", "Internal Server Error", some "Backend returned an inconsistent result"⟩ :=
  status_of_server_error rfl

section

variable {registry : Registry} {kind : BackendKind} {type mapping : String} {body : List UInt8}
  {entity : Entity} {m : Mapping}

theorem reply_of_registered {backend : Backend} (hread : readEntity body = .ok entity)
    (hparsed : Mapping.parse type mapping = .ok m) (hfound : registry.find? kind = some backend)
    (selector : Selector) :
    (queryContext registry kind type mapping selector body).reply =
      backend.reply entity m selector := by
  rw [(Course.fetched hread hparsed hfound).eq_queryContext, Backend.reply]

theorem reply_of_unregistered (hread : readEntity body = .ok entity)
    (hparsed : Mapping.parse type mapping = .ok m) (hfound : registry.find? kind = none)
    (selector : Selector) :
    (queryContext registry kind type mapping selector body).reply =
      .silent (unregisteredReply entity) := by
  have hanswer (reason : String) :
      (Answer.failure entity (.inconsistent reason)).envelope.text =
        (unregisteredReply entity).body := by
    rw [Answer.failure, QueryError.status_inconsistent]
    rfl
  rw [(Course.unregistered hread hparsed hfound).eq_queryContext, Traced.reply]
  simp only [Traced.silent, hanswer]
  rfl

end

namespace Server

/-- A query that is decoded is answered by its type, its mapping and perhaps a selector. -/
theorem exists_answerQuery_eq (registry : Registry) (body : List UInt8) {kind : BackendKind}
    {names raws more : List String} {type mapping : String}
    (hquery : (kind, names) ∈ Route.queries)
    (hdecoded : List.Forall₂ (fun raw value ↦ percentDecodeText? raw = some value) raws
      (type :: mapping :: more)) :
    ∃ selector, answerQuery registry kind (names.zip raws) body =
      queryContext registry kind type mapping selector body := by
  have hnames : ∀ query ∈ Route.queries, ∃ others,
      query.2 = Route.typeParameter :: Route.mappingParameter :: others := by
    simp [Route.queries, Route.plainParameters, Route.selectorParameters]
  obtain ⟨others, rfl⟩ := hnames _ hquery
  rw [answerQuery, Parameters.decode_zip hdecoded]
  exact ⟨_, rfl⟩

/-- Discovery lists a preset exactly if a request to its path is handed to a backend, the last
registered one of its kind. Each of the others, and each query to a kind without a backend, is
answered with the envelope for that, without a question to a data source. -/
theorem discovery_agrees_with_dispatch (registry : Registry) {body : List UInt8} {entity : Entity}
    (hreadable : Readable body entity) :
    (∀ preset ∈ Preset.all, ∃ m, Mapping.parse preset.type preset.mapping = .ok m ∧
      (preset.url ∈ contextUrls registry ↔
        ∃ backend : Backend, backend.LastOf preset.backend registry.backends ∧
          serve registry ⟨"POST", preset.url, body⟩ =
            backend.reply entity m (.ofText? preset.selector)) ∧
      (preset.url ∉ contextUrls registry ↔
        (∀ backend ∈ registry.backends, backend.kind ≠ preset.backend) ∧
          serve registry ⟨"POST", preset.url, body⟩ = .silent (unregisteredReply entity))) ∧
    ((contextUrls registry).Sublist (Preset.all.map Preset.url) ∧ (contextUrls registry).Nodup) ∧
    (∀ path ∈ ["/proxy/v1", "/proxy/v1/"], ∀ sent : List UInt8,
      serve registry ⟨"GET", path, sent⟩ = .silent
        ⟨200, [("content-type", "application/json"), ("access-control-allow-origin", "*")],
          (Json.object [("context_urls", .array ((contextUrls registry).map .string))]).text⟩) ∧
    ∀ kind names, (kind, names) ∈ Route.queries →
      (∀ backend ∈ registry.backends, backend.kind ≠ kind) →
      ∀ raws : List String, names.length = raws.length → (∀ raw ∈ raws, Route.IsPlain raw) →
      ∀ (type mapping : String) (more : List String) (m : Mapping),
        List.Forall₂ (fun raw value ↦ percentDecode (toUtf8 raw) = toUtf8 value) raws
          (type :: mapping :: more) →
        Mapping.parse type mapping = .ok m →
        serve registry ⟨"POST", rawQueryPath kind raws, body⟩ =
          .silent (unregisteredReply entity) := by
  obtain ⟨hsize, hread⟩ := readable_iff.mp hreadable
  refine ⟨?presets, ⟨contextUrls_sublist registry, ?distinct⟩, ?discovery, ?queries⟩
  case presets =>
    intro preset hpreset
    obtain ⟨m, hparsed⟩ := Preset.exists_parse_eq_ok preset hpreset
    refine ⟨m, hparsed, ?_, ?_⟩
    · rw [url_mem_contextUrls_iff hpreset]
      refine exists_congr fun backend ↦ ?_
      rw [Registry.find?_eq_some_iff, iff_self_and, ← Registry.find?_eq_some_iff,
        serve_url registry hpreset hsize]
      intro hfound
      exact reply_of_registered hread hparsed hfound _
    · rw [url_mem_contextUrls_iff hpreset, ← Option.ne_none_iff_exists', not_not,
        Registry.find?_eq_none_iff, iff_self_and, ← Registry.find?_eq_none_iff,
        serve_url registry hpreset hsize]
      intro hfound
      exact reply_of_unregistered hread hparsed hfound _
  case distinct => exact (contextUrls_sublist registry).nodup Preset.nodup_urls
  case discovery =>
    intro path hpath sent
    rw [serve, find?_discovery path hpath]
    rfl
  case queries =>
    intro kind names hquery hnone raws hlength hplain type mapping more m hdecoded hparsed
    have hdecoded := hdecoded.imp fun _ _ ↦ percentDecodeText?_eq_some_iff.mpr
    obtain ⟨selector, hanswer⟩ := exists_answerQuery_eq registry body hquery hdecoded
    rw [serve_query hquery hlength hplain hsize, hanswer]
    exact reply_of_unregistered hread hparsed (Registry.find?_eq_none_iff.mpr hnone) selector

/-- The fixtures of the first backend are overridden by the last one, which has none; the searches
and the observations have no backend. -/
def overridden : Registry where
  backends := [FixtureTable.builtin.backend, (FixtureTable.mk []).backend]

theorem overridden_agrees :
    Readable roomBody ⟨"Room", none⟩ ∧
      "/proxy/v1/static/temperature/queryContext" ∈ contextUrls overridden ∧
      (∃ m, serve overridden ⟨"POST", "/proxy/v1/static/temperature/queryContext", roomBody⟩ =
        (FixtureTable.mk []).backend.reply ⟨"Room", none⟩ m .none) ∧
      serve overridden ⟨"POST", "/proxy/v1/twitter/tweets/queryContext", roomBody⟩ =
        .silent (unregisteredReply ⟨"Room", none⟩) ∧
      serve overridden ⟨"POST",
          "/proxy/v1/weather/number/temperature%3Atemp_c/Spain%2FMadrid/queryContext", roomBody⟩ =
        .silent (unregisteredReply ⟨"Room", none⟩) := by
  have hsize : roomBody.length ≤ 2097152 := by decide +kernel
  have hreadable : Readable roomBody ⟨"Room", none⟩ := ⟨hsize, .inr ⟨_, roomBody_requests, rfl⟩⟩
  obtain ⟨hpresets, -, -, hqueries⟩ := discovery_agrees_with_dispatch overridden hreadable
  have htemperature : (⟨.static, "temperature", "number", "temperature", none⟩ : Preset).url =
      "/proxy/v1/static/temperature/queryContext" := by decide +kernel
  have htweets : (⟨.twitter, "tweets", "list", "tweets:text", some "FIWARE"⟩ : Preset).url =
      "/proxy/v1/twitter/tweets/queryContext" := by decide +kernel
  obtain ⟨m, -, hlisted, -⟩ :=
    hpresets ⟨.static, "temperature", "number", "temperature", none⟩ (by decide)
  obtain ⟨-, -, -, hunlisted⟩ :=
    hpresets ⟨.twitter, "tweets", "list", "tweets:text", some "FIWARE"⟩ (by decide)
  rw [htemperature] at hlisted
  rw [htweets] at hunlisted
  have hurl : "/proxy/v1/static/temperature/queryContext" ∈ contextUrls overridden := by
    decide +kernel
  refine ⟨hreadable, hurl, ?_, ?_, ?_⟩
  · obtain ⟨backend, hlast, hserve⟩ := hlisted.mp hurl
    have hfound : overridden.find? .static = some backend :=
      Registry.find?_eq_some_iff.mpr hlast
    cases hfound
    exact ⟨m, hserve⟩
  · exact (hunlisted.mp (by decide +kernel)).2
  · obtain ⟨_, hparsed⟩ := Preset.exists_parse_eq_ok
      ⟨.weather, "temperature", "number", "temperature:temp_c", some "Germany/Berlin"⟩ (by decide)
    have hdecoded : List.Forall₂ (fun raw value ↦ percentDecode (toUtf8 raw) = toUtf8 value)
        ["number", "temperature%3Atemp_c", "Spain%2FMadrid"]
        ["number", "temperature:temp_c", "Spain/Madrid"] := by
      simp only [List.forall₂_cons, List.Forall₂.nil, and_true]
      decide +kernel
    have hpath : rawQueryPath .weather ["number", "temperature%3Atemp_c", "Spain%2FMadrid"] =
        "/proxy/v1/weather/number/temperature%3Atemp_c/Spain%2FMadrid/queryContext" := by
      decide +kernel
    have hmissing : ∀ backend ∈ overridden.backends, backend.kind ≠ .weather :=
      Registry.find?_eq_none_iff.mp rfl
    rw [← hpath]
    exact hqueries .weather Route.selectorParameters (by decide) hmissing _ rfl (by decide)
      _ _ _ _ hdecoded hparsed

end Server

end ContextProvider
