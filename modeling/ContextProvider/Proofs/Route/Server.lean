import ContextProvider.Backend.Static
import ContextProvider.Proofs.Query.Completeness
import ContextProvider.Proofs.Route.Table
import ContextProvider.Route.Server
import Mathlib.Data.List.Forall2

/-!
# Queries over HTTP

A query by its path is answered as the query itself, with the decoded parameters; a query with a
parameter that cannot be decoded is refused in the same form, without a question to any data source.
So every route that answers queries keeps to status 200 and an envelope, as long as the body is
within the size limit. Over the limit no handler runs, and the reply is a plain text under its own
status.
-/

namespace ContextProvider

open Text

/-- The reply that carries an answer. -/
def Traced.reply (answer : Traced Answer) : Traced ServerResponse where
  result := ⟨200, [("content-type", "application/json"), ("access-control-allow-origin", "*")],
    answer.result.envelope.text⟩
  questions := answer.questions

/-! ## Envelopes -/

/-- The outcome is told by the status of the response: a complete one, or an error. -/
def ContextResponse.TellsOutcome (shown : ContextResponse) : Prop :=
  (∃ m values, shown.Complete m values) ∨ shown.Failed

/-- A response to a query: status 200 and an envelope of one response as JSON. -/
structure ServerResponse.CarriesEnvelope (response : ServerResponse) : Prop where
  status : response.status = 200
  type : response.headers.lookup "content-type" = some "application/json"
  body : ∃ shown : ContextResponse, response.body = (Envelope.mk [shown]).text ∧ shown.TellsOutcome

theorem queryContext_envelope (registry : Registry) (kind : BackendKind) (type mapping : String)
    (selector : Selector) (body : List UInt8) :
    ∃ shown : ContextResponse,
      (queryContext registry kind type mapping selector body).result.envelope = ⟨[shown]⟩ ∧
        shown.TellsOutcome := by
  rcases queryContext_served_or_failed registry kind type mapping selector body with
    ⟨m, values, hserved⟩ | ⟨entity, error, hanswer⟩
  · obtain ⟨entity, hanswer⟩ := queryContext_of_served hserved
    exact ⟨_, hanswer, .inl ⟨m, values, entity.complete_complete hserved.answered⟩⟩
  · exact ⟨_, hanswer, .inr (entity.failed_failed error)⟩

/-! ## Parameters -/

namespace Parameters

theorem decode_zip {raws values : List String}
    (h : List.Forall₂ (fun raw value ↦ percentDecodeText? raw = some value) raws values)
    (names : List String) : decode (names.zip raws) = .ok (names.zip values) := by
  induction h generalizing names with
  | nil => rw [List.zip_nil_right, decode]
  | cons hraw _ ih =>
    cases names with
    | nil => rfl
    | cons name names => simp only [List.zip_cons_cons, decode, hraw, ih, Except.map]

theorem decode_encoded (names values : List String) :
    decode (names.zip (values.map percentEncodeText)) = .ok (names.zip values) := by
  apply decode_zip
  rw [List.forall₂_map_left_iff, List.forall₂_same]
  exact fun value _ ↦ percentDecodeText?_percentEncodeText value

theorem exists_decode_eq_error {parameters : Parameters}
    (h : ∃ parameter ∈ parameters, percentDecodeText? parameter.2 = none) :
    ∃ name, parameters.decode = .error name := by
  induction parameters with
  | nil => simp at h
  | cons parameter rest ih =>
    obtain ⟨name, raw⟩ := parameter
    rw [List.exists_mem_cons_iff] at h
    cases hraw : percentDecodeText? raw with
    | none => exact ⟨name, by simp only [decode, hraw]⟩
    | some value =>
      obtain ⟨first, hfirst⟩ := ih (h.resolve_left (by simp [hraw]))
      exact ⟨first, by simp only [decode, hraw, hfirst, Except.map]⟩

end Parameters

namespace Server

variable {registry : Registry} {target : Target} {parameters : Parameters} {body : List UInt8}

theorem answerQuery_envelope (registry : Registry) (kind : BackendKind) (parameters : Parameters)
    (body : List UInt8) : ∃ shown : ContextResponse,
      (answerQuery registry kind parameters body).result.envelope = ⟨[shown]⟩ ∧
        shown.TellsOutcome := by
  cases hdecode : parameters.decode with
  | error name =>
    refine ⟨Entity.unnamed.failed (parameterError name), ?_, .inr (Entity.failed_failed _ _)⟩
    simp only [answerQuery, hdecode]
    rfl
  | ok values =>
    simp only [answerQuery, hdecode]
    exact queryContext_envelope _ _ _ _ _ _

theorem status_parameterError (name : String) : (parameterError name).status =
    ⟨"400", "Bad Request", some (parameterError name).publicDetails⟩ := by
  have hcode : (parameterError name).statusCode = 400 := rfl
  rw [QueryError.status, QueryError.reasonPhrase, hcode, if_pos rfl]
  rfl

/-! ## Replies -/

theorem serve_post {path : String}
    (hfound : Route.find? (RequestTarget.path path) = some (target, parameters))
    (hqueries : target.answersQueries) :
    serve registry ⟨"POST", path, body⟩ = serveTarget registry target parameters body := by
  cases target with
  | health => cases hqueries
  | discovery => cases hqueries
  | query kind => simp [serve, hfound, allowedMethods]
  | preset preset => simp [serve, hfound, allowedMethods]

theorem limited_of_le (h : body.length ≤ 2097152) (answer : Traced Answer) :
    limited body answer = answer.reply :=
  if_neg (Nat.not_lt.mpr h)

/-- The reply to a body over the size limit. -/
def refusal : ServerResponse where
  status := 413
  headers := [("content-type", "text/plain; charset=utf-8"), ("access-control-allow-origin", "*")]
  body := "Failed to buffer the request body: length limit exceeded"

theorem limited_of_lt (h : 2097152 < body.length) (answer : Traced Answer) :
    limited body answer = .silent refusal :=
  if_pos h

theorem not_carriesEnvelope_refusal : ¬ refusal.CarriesEnvelope :=
  fun h ↦ absurd h.status (by decide)

/-- A target for queries limits the body and answers with an envelope. -/
theorem exists_serveTarget_eq_limited (registry : Registry) (parameters : Parameters)
    (body : List UInt8) (hqueries : target.answersQueries) :
    ∃ answer : Traced Answer, serveTarget registry target parameters body = limited body answer ∧
      answer.reply.result.CarriesEnvelope := by
  have hreply : ∀ answer : Traced Answer,
      (∃ shown : ContextResponse, answer.result.envelope = ⟨[shown]⟩ ∧ shown.TellsOutcome) →
        answer.reply.result.CarriesEnvelope := by
    rintro answer ⟨shown, henvelope, houtcome⟩
    exact ⟨rfl, rfl, shown, by rw [Traced.reply, henvelope], houtcome⟩
  cases target with
  | health => cases hqueries
  | discovery => cases hqueries
  | query kind => exact ⟨_, rfl, hreply _ (answerQuery_envelope registry kind parameters body)⟩
  | preset preset => exact ⟨_, rfl, hreply _ (queryContext_envelope _ _ _ _ _ _)⟩

/-- A query by its route is answered under status 200 with an envelope, exactly if its body is
within the size limit; any other is refused, and no data source is asked. -/
theorem carriesEnvelope_iff {route : Route} (hroute : route ∈ Route.all)
    (hqueries : route.target.answersQueries) {path : String} {segments : List String}
    (hsplit : Route.splitPath (RequestTarget.path path) = some segments)
    (hmatch : Route.matchSegments route.segments segments = some parameters) :
    ((serve registry ⟨"POST", path, body⟩).result.CarriesEnvelope ↔ body.length ≤ 2097152) ∧
      (2097152 < body.length → serve registry ⟨"POST", path, body⟩ = .silent refusal) := by
  obtain ⟨target, values, hfound, htarget⟩ :=
    Route.exists_find?_of_matchSegments hroute hqueries hsplit hmatch
  obtain ⟨answer, hanswer, henvelope⟩ :=
    exists_serveTarget_eq_limited registry values body htarget
  rw [serve_post hfound htarget, hanswer]
  rcases Nat.lt_or_ge 2097152 body.length with hlarge | hsmall
  · rw [limited_of_lt hlarge]
    exact ⟨iff_of_false not_carriesEnvelope_refusal (Nat.not_le.mpr hlarge), fun _ ↦ rfl⟩
  · rw [limited_of_le hsmall]
    exact ⟨iff_of_true henvelope hsmall, fun hlarge ↦ absurd hlarge (Nat.not_lt.mpr hsmall)⟩

/-- An undecodable parameter does not keep the reply from carrying an envelope. -/
theorem undecodable_carriesEnvelope :
    ((serve ⟨[]⟩ ⟨"POST", "/proxy/v1/static/%FF/a/queryContext", []⟩).result.CarriesEnvelope ↔
        ([] : List UInt8).length ≤ 2097152) ∧
      (2097152 < ([] : List UInt8).length →
        serve ⟨[]⟩ ⟨"POST", "/proxy/v1/static/%FF/a/queryContext", []⟩ = .silent refusal) :=
  have hroute : Route.query .static Route.plainParameters ∈ Route.all := by simp [Route.all]
  have hsplit : Route.splitPath (RequestTarget.path "/proxy/v1/static/%FF/a/queryContext") =
      some ["proxy", "v1", "static", "%FF", "a", "queryContext"] := by decide +kernel
  have hmatch : Route.matchSegments (Route.query .static Route.plainParameters).segments
      ["proxy", "v1", "static", "%FF", "a", "queryContext"] =
        some [("type", "%FF"), ("mapping", "a")] := by decide
  carriesEnvelope_iff hroute rfl hsplit hmatch

/-- A static query with one byte more than the limit gets no envelope. -/
theorem oversized_query_refused :
    Route.find? (RequestTarget.path "/proxy/v1/static/number/temperature/queryContext") =
        some (.query .static, [("type", "number"), ("mapping", "temperature")]) ∧
      (serve ⟨[FixtureTable.builtin.backend]⟩
        ⟨"POST", "/proxy/v1/static/number/temperature/queryContext",
          List.replicate 2097153 0x20⟩).result.status = 413 ∧
      ¬ (serve ⟨[FixtureTable.builtin.backend]⟩
        ⟨"POST", "/proxy/v1/static/number/temperature/queryContext",
          List.replicate 2097153 0x20⟩).result.CarriesEnvelope := by
  have hpath : rawQueryPath .static ["number", "temperature"] =
      "/proxy/v1/static/number/temperature/queryContext" := by decide
  have hquery : (BackendKind.static, Route.plainParameters) ∈ Route.queries := by decide
  have hlength : Route.plainParameters.length = ["number", "temperature"].length := rfl
  have hfound := Route.find?_rawQueryPath hquery hlength (by decide)
  rw [hpath] at hfound
  have hlarge : 2097152 < (List.replicate 2097153 (0x20 : UInt8)).length := by
    rw [List.length_replicate]
    decide
  have hrefused : serve ⟨[FixtureTable.builtin.backend]⟩
      ⟨"POST", "/proxy/v1/static/number/temperature/queryContext", List.replicate 2097153 0x20⟩ =
        .silent refusal := by
    rw [serve_post hfound rfl]
    exact limited_of_lt hlarge _
  rw [hrefused]
  exact ⟨hfound, rfl, not_carriesEnvelope_refusal⟩

/-! ## Queries behind their routes -/

theorem serve_url (registry : Registry) {preset : Preset} (hpreset : preset ∈ Preset.all)
    (hbody : body.length ≤ 2097152) :
    serve registry ⟨"POST", preset.url, body⟩ = (answerPreset registry preset body).reply := by
  rw [serve_post (Route.find?_url preset hpreset) rfl]
  exact limited_of_le hbody _

theorem serve_query {kind : BackendKind} {names raws : List String}
    (hquery : (kind, names) ∈ Route.queries) (hlength : names.length = raws.length)
    (hplain : ∀ raw ∈ raws, Route.IsPlain raw) (hbody : body.length ≤ 2097152) :
    serve registry ⟨"POST", rawQueryPath kind raws, body⟩ =
      (answerQuery registry kind (names.zip raws) body).reply := by
  rw [serve_post (Route.find?_rawQueryPath hquery hlength hplain) rfl]
  exact limited_of_le hbody _

theorem serve_query_encoded {kind : BackendKind} {names : List String}
    (hquery : (kind, names) ∈ Route.queries) {values : List String}
    (hlength : names.length = values.length) (hbody : body.length ≤ 2097152) :
    serve registry ⟨"POST", queryPath kind values, body⟩ =
      (answerQuery registry kind (names.zip (values.map percentEncodeText)) body).reply := by
  have hplain : ∀ raw ∈ values.map percentEncodeText, Route.IsPlain raw := by
    simpa using fun value _ ↦ Route.isPlain_percentEncodeText value
  rw [queryPath_eq_rawQueryPath, serve_query hquery (by simpa) hplain hbody]

/-- The reply to a query with a parameter that cannot be decoded. -/
def undecodableReply (details : String) : ServerResponse where
  status := 200
  headers := [("content-type", "application/json"), ("access-control-allow-origin", "*")]
  body := (Envelope.mk
    [⟨⟨"Thing", "false", none, []⟩, ⟨"400", "Bad Request", some details⟩⟩]).text

theorem exists_serve_eq_undecodableReply {kind : BackendKind} {names raws : List String}
    (hquery : (kind, names) ∈ Route.queries) (hlength : names.length = raws.length)
    (hplain : ∀ raw ∈ raws, Route.IsPlain raw)
    (hundecodable : ∃ raw ∈ raws, percentDecodeText? raw = none)
    (hbody : body.length ≤ 2097152) :
    ∃ details, serve registry ⟨"POST", rawQueryPath kind raws, body⟩ =
      .silent (undecodableReply details) := by
  have hparameter : ∃ parameter ∈ names.zip raws, percentDecodeText? parameter.2 = none := by
    obtain ⟨raw, hraw, hnone⟩ := hundecodable
    have hsnd : (names.zip raws).map Prod.snd = raws := List.map_snd_zip hlength.ge
    rw [← hsnd] at hraw
    obtain ⟨parameter, hmem, rfl⟩ := List.mem_map.mp hraw
    exact ⟨parameter, hmem, hnone⟩
  obtain ⟨name, hname⟩ := Parameters.exists_decode_eq_error hparameter
  have hanswer : answerQuery registry kind (names.zip raws) body =
      .silent (.failure .unnamed (parameterError name)) := by
    simp only [answerQuery, hname]
  have hfailure : (Answer.failure .unnamed (parameterError name)).envelope =
      ⟨[⟨⟨"Thing", "false", none, []⟩,
        ⟨"400", "Bad Request", some (parameterError name).publicDetails⟩⟩]⟩ := by
    rw [Answer.failure, status_parameterError]
    rfl
  refine ⟨(parameterError name).publicDetails, ?_⟩
  rw [serve_query hquery hlength hplain hbody, hanswer, undecodableReply, ← hfailure]
  rfl

/-- A query by its path, or by a preset, is answered as the query itself. One with a parameter that
cannot be decoded is refused as one about no entity, without a question to a data source. -/
theorem serve_eq_queryContext (registry : Registry) {body : List UInt8}
    (hbody : body.length ≤ 2097152) :
    (∀ kind ∈ [BackendKind.random, .static], ∀ type mapping : String,
      serve registry ⟨"POST", queryPath kind [type, mapping], body⟩ =
        (queryContext registry kind type mapping .none body).reply) ∧
    (∀ kind ∈ [BackendKind.static, .twitter, .weather], ∀ type mapping selector : String,
      serve registry ⟨"POST", queryPath kind [type, mapping, selector], body⟩ =
        (queryContext registry kind type mapping (.ofText selector) body).reply) ∧
    (∀ preset ∈ Preset.all,
      serve registry ⟨"POST", preset.url, body⟩ =
        (queryContext registry preset.backend preset.type preset.mapping
          (.ofText? preset.selector) body).reply) ∧
    (∀ kind names, (kind, names) ∈ Route.queries → ∀ raws : List String,
      names.length = raws.length → (∀ raw ∈ raws, Route.IsPlain raw) →
      (∃ raw ∈ raws, ∀ s, toUtf8 s ≠ percentDecode (toUtf8 raw)) →
      ∃ details, serve registry ⟨"POST", rawQueryPath kind raws, body⟩ =
        .silent (undecodableReply details)) := by
  refine ⟨?plain, ?selector, ?preset, ?undecodable⟩
  case plain =>
    intro kind hkind type mapping
    have hquery : (kind, Route.plainParameters) ∈ Route.queries := by
      revert kind
      decide
    have hlength : Route.plainParameters.length = [type, mapping].length := rfl
    rw [serve_query_encoded hquery hlength hbody, answerQuery, Parameters.decode_encoded]
    rfl
  case selector =>
    intro kind hkind type mapping selector
    have hquery : (kind, Route.selectorParameters) ∈ Route.queries := by
      revert kind
      decide
    have hlength : Route.selectorParameters.length = [type, mapping, selector].length := rfl
    rw [serve_query_encoded hquery hlength hbody, answerQuery, Parameters.decode_encoded]
    rfl
  case preset =>
    intro preset hpreset
    exact serve_url registry hpreset hbody
  case undecodable =>
    rintro kind names hquery raws hlength hplain ⟨raw, hraw, hundecodable⟩
    exact exists_serve_eq_undecodableReply hquery hlength hplain
      ⟨raw, hraw, percentDecodeText?_eq_none_iff.mpr hundecodable⟩ hbody

/-- Slashes stay inside their parameters, and a byte that is no text by itself is refused. -/
theorem serve_madrid :
    ([] : List UInt8).length ≤ 2097152 ∧
      serve ⟨[FixtureTable.backend .builtin]⟩
          ⟨"POST", "/proxy/v1/static/number/t%3Atemperature/Spain%2FMadrid/queryContext", []⟩ =
        (queryContext ⟨[FixtureTable.backend .builtin]⟩ .static "number" "t:temperature"
          (.ofText "Spain/Madrid") []).reply ∧
      ∃ details, serve ⟨[FixtureTable.backend .builtin]⟩
          ⟨"POST", "/proxy/v1/static/number/%FF/Spain%2FMadrid/queryContext", []⟩ =
        .silent (undecodableReply details) := by
  have hbody : ([] : List UInt8).length ≤ 2097152 := by decide
  obtain ⟨-, hselector, -, hundecodable⟩ :=
    serve_eq_queryContext ⟨[FixtureTable.backend .builtin]⟩ hbody
  have hpath : queryPath .static ["number", "t:temperature", "Spain/Madrid"] =
      "/proxy/v1/static/number/t%3Atemperature/Spain%2FMadrid/queryContext" := by decide +kernel
  have hraw : rawQueryPath .static ["number", "%FF", "Spain%2FMadrid"] =
      "/proxy/v1/static/number/%FF/Spain%2FMadrid/queryContext" := by decide +kernel
  have hbyte : ∀ s, toUtf8 s ≠ percentDecode (toUtf8 "%FF") :=
    percentDecodeText?_eq_none_iff.mp (by decide +kernel)
  rw [← hpath, ← hraw]
  exact ⟨hbody, hselector .static (by decide) "number" "t:temperature" "Spain/Madrid",
    hundecodable .static Route.selectorParameters (by decide) _ rfl (by decide)
      ⟨"%FF", by decide, hbyte⟩⟩

end Server

end ContextProvider
