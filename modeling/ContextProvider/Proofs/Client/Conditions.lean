import ContextProvider.Client.Observation
import ContextProvider.Proofs.Client.Answer

/-!
# The answers of an observatory

An observatory reports its errors in documents that look like successes: an object whose `response`
is an object with an `error`. Such a document is a refusal whatever the error is and whatever else
the document holds, so an observation beside an error is never served. In every other document the
observation is the object under `current_observation`, as it stands, and a document without one is
malformed. A `response` that is no object, or has no `error`, does not count. A reply that is not a
success is the same error that a search would give.
-/

namespace ContextProvider

open Json Text

namespace ObservationClient

/-! ## Error documents -/

/-- A value is an object with a text under a name. -/
def Says (fault : Json) (name text : String) : Prop :=
  ∃ members : Fields, fault = .object members ∧ members.get? name = some (.string text)

/-- The text of a value under a name, or another text where there is none. -/
inductive SaysOr (fault : Json) (name other : String) : String → Prop
  | said {text : String} (said : Says fault name text) : SaysOr fault name other text
  | silent (silent : ∀ text, ¬ Says fault name text) : SaysOr fault name other other

/-- The root of a document has a `response`, an object, with the given error. -/
def Reports (root : Fields) (fault : Json) : Prop :=
  ∃ response : Fields, root.get? "response" = some (.object response) ∧
    response.get? "error" = some fault

/-- The root of a document reports an error, which is put into words: its type, and what it
describes. -/
inductive Refuses (root : Fields) : String → Prop
  | intro {fault : Json} {kind description : String} (reports : Reports root fault)
      (named : SaysOr fault "type" "error" kind)
      (described : SaysOr fault "description" "no description" description) :
      Refuses root (kind ++ ": " ++ description)

section

variable {fault : Json} {root : Fields} {name text other reason : String}

theorem member?_eq_some_iff {value member : Json} : value.member? name = some member ↔
    ∃ members : Fields, value = .object members ∧ members.get? name = some member := by
  cases value <;> simp [member?, fields?]

theorem string?_eq_some_iff {value : Json} : value.string? = some text ↔ value = .string text := by
  cases value <;> simp [string?]

theorem says_iff : Says fault name text ↔ (fault.member? name).bind string? = some text := by
  simp only [Option.bind_eq_some_iff, member?_eq_some_iff, string?_eq_some_iff, Says]
  grind

theorem saysOr_iff : SaysOr fault name other text ↔ textOr fault name other = text := by
  rw [textOr]
  constructor
  · rintro (said | silent)
    · rw [says_iff.mp said, Option.getD_some]
    · have hnone : (fault.member? name).bind string? = none :=
        Option.eq_none_iff_forall_ne_some.mpr fun text htext ↦ silent text (says_iff.mpr htext)
      rw [hnone, Option.getD_none]
  · rintro rfl
    cases hsaid : (fault.member? name).bind string? with
    | some text => exact .said (says_iff.mpr hsaid)
    | none =>
      refine .silent fun text htext ↦ ?_
      cases hsaid.symm.trans (says_iff.mp htext)

theorem reports_iff : Reports root fault ↔
    (((Json.object root).member? "response").bind fun response ↦ response.member? "error") =
      some fault := by
  simp only [Option.bind_eq_some_iff, member?_eq_some_iff, Reports, Json.object.injEq]
  grind

/-- A refusal is found in exactly the documents that report an error. -/
theorem refusal?_eq_some_iff : refusal? (.object root) = some reason ↔ Refuses root reason := by
  rw [refusal?, Option.map_eq_some_iff]
  simp only [← reports_iff]
  constructor
  · rintro ⟨fault, reports, rfl⟩
    exact .intro reports (saysOr_iff.mpr rfl) (saysOr_iff.mpr rfl)
  · rintro ⟨reports, named, described⟩
    exact ⟨_, reports, by rw [saysOr_iff.mp named, saysOr_iff.mp described]⟩

theorem refusal?_eq_none_iff :
    refusal? (.object root) = none ↔ ∀ fault, ¬ Reports root fault := by
  rw [refusal?, Option.map_eq_none_iff, Option.eq_none_iff_forall_ne_some]
  simp only [reports_iff, ne_eq]

end

/-! ## Documents -/

/-- What keeps a document without an error from having an observation, with the reason that is
given for it. -/
inductive Malformed (reply : FetchReply) : String → Prop
  | undecodable (none : ∀ value, ¬ reply.Holds value) :
      Malformed reply "error decoding response body"
  | root {value : Json} (holds : reply.Holds value) (other : ∀ root, value ≠ .object root) :
      Malformed reply "conditions response is not an object"
  | missing {root : Fields} (holds : reply.Holds (.object root))
      (clear : ∀ fault, ¬ Reports root fault) (missing : root.get? "current_observation" = none) :
      Malformed reply "conditions response has no 'current_observation'"
  | shape {root : Fields} {value : Json} (holds : reply.Holds (.object root))
      (clear : ∀ fault, ¬ Reports root fault)
      (given : root.get? "current_observation" = some value)
      (other : ∀ observed, value ≠ .object observed) :
      Malformed reply "'current_observation' is not an object"

/-- The answer to a reply. -/
inductive Answers (reply : FetchReply) : Except FetchError Fields → Prop
  | rateLimited (status : reply.status = 429) : Answers reply (.error .rateLimited)
  | refused (other : reply.status ≠ 429) (status : reply.status < 200 ∨ 300 ≤ reply.status) :
      Answers reply
        (.error (.status reply.status (FetchReply.errorMessage reply.text reply.status)))
  | rejected {root : Fields} {reason : String} (least : 200 ≤ reply.status)
      (most : reply.status < 300) (holds : reply.Holds (.object root))
      (refuses : Refuses root reason) : Answers reply (.error (.rejected reason))
  | observed {root observed : Fields} (least : 200 ≤ reply.status) (most : reply.status < 300)
      (holds : reply.Holds (.object root)) (clear : ∀ fault, ¬ Reports root fault)
      (given : root.get? "current_observation" = some (.object observed)) :
      Answers reply (.ok observed)
  | malformed {reason : String} (least : 200 ≤ reply.status) (most : reply.status < 300)
      (malformed : Malformed reply reason) : Answers reply (.error (.malformed reason))

variable {reply : FetchReply}

theorem readReply_of_holds (hsuccess : reply.isSuccess) {value : Json} (h : reply.Holds value) :
    readReply reply = observation value := by
  rw [readReply, FetchReply.readJson_of_value hsuccess (FetchReply.decoded_eq_some_iff.mpr h)]

theorem observation_of_refuses {root : Fields} {reason : String} (h : Refuses root reason) :
    observation (.object root) = .error (.rejected reason) := by
  simp only [observation, fields?, refusal?_eq_some_iff.mpr h]

/-- Without an error the member `current_observation` decides. -/
theorem observation_of_clear {root : Fields} (h : ∀ fault, ¬ Reports root fault) :
    observation (.object root) = match root.get? "current_observation" with
      | some (.object observed) => .ok observed
      | some _ => .error (.malformed "'current_observation' is not an object")
      | none => .error (.malformed "conditions response has no 'current_observation'") := by
  rw [observation, refusal?_eq_none_iff.mpr h]
  rfl

theorem readReply_of_malformed (hsuccess : reply.isSuccess) {reason : String}
    (h : Malformed reply reason) : readReply reply = .error (.malformed reason) := by
  cases h with
  | undecodable none =>
    have hdecoded : reply.body.bind ofJsonBytes? = Option.none :=
      Option.eq_none_iff_forall_ne_some.mpr fun value hvalue ↦
        none value (FetchReply.decoded_eq_some_iff.mp hvalue)
    rw [readReply, FetchReply.readJson_of_undecodable hsuccess hdecoded]
  | @root value holds other =>
    rw [readReply_of_holds hsuccess holds]
    cases value with
    | object root => exact absurd rfl (other root)
    | null | bool | number | string | array => rfl
  | missing holds clear missing =>
    rw [readReply_of_holds hsuccess holds, observation_of_clear clear, missing]
  | @shape _ value holds clear given other =>
    rw [readReply_of_holds hsuccess holds, observation_of_clear clear, given]
    cases value with
    | object observed => exact absurd rfl (other observed)
    | null | bool | number | string | array => rfl

theorem Answers.readReply_eq {result : Except FetchError Fields} (h : Answers reply result) :
    readReply reply = result := by
  cases h with
  | rateLimited status => rw [readReply, FetchReply.readJson_of_limited status]
  | refused other status =>
    rw [readReply,
      FetchReply.readJson_of_refused other (FetchReply.not_isSuccess_iff.mpr status)]
  | rejected least most holds refuses =>
    rw [readReply_of_holds (FetchReply.isSuccess_iff.mpr ⟨least, most⟩) holds,
      observation_of_refuses refuses]
  | observed least most holds clear given =>
    rw [readReply_of_holds (FetchReply.isSuccess_iff.mpr ⟨least, most⟩) holds,
      observation_of_clear clear, given]
  | malformed least most malformed =>
    exact readReply_of_malformed (FetchReply.isSuccess_iff.mpr ⟨least, most⟩) malformed

theorem exists_answers_of_object {root : Fields} (least : 200 ≤ reply.status)
    (most : reply.status < 300) (holds : reply.Holds (.object root)) :
    ∃ result, Answers reply result := by
  cases hrefusal : refusal? (.object root) with
  | some reason => exact ⟨_, .rejected least most holds (refusal?_eq_some_iff.mp hrefusal)⟩
  | none =>
    have clear := refusal?_eq_none_iff.mp hrefusal
    cases hgiven : root.get? "current_observation" with
    | none => exact ⟨_, .malformed least most (.missing holds clear hgiven)⟩
    | some given =>
      cases given with
      | object observed => exact ⟨_, .observed least most holds clear hgiven⟩
      | null | bool | number | string | array =>
        exact ⟨_, .malformed least most (.shape holds clear hgiven nofun)⟩

theorem exists_answers (reply : FetchReply) : ∃ result, Answers reply result := by
  by_cases hlimited : reply.status = 429
  · exact ⟨_, .rateLimited hlimited⟩
  by_cases hrefused : reply.status < 200 ∨ 300 ≤ reply.status
  · exact ⟨_, .refused hlimited hrefused⟩
  obtain ⟨least, most⟩ : 200 ≤ reply.status ∧ reply.status < 300 := by omega
  by_cases hnone : ∀ value, ¬ reply.Holds value
  · exact ⟨_, .malformed least most (.undecodable hnone)⟩
  obtain ⟨value, holds⟩ := not_forall_not.mp hnone
  cases value with
  | object root => exact exists_answers_of_object least most holds
  | null | bool | number | string | array => exact ⟨_, .malformed least most (.root holds nofun)⟩

theorem answers_iff {result : Except FetchError Fields} :
    Answers reply result ↔ readReply reply = result := by
  refine ⟨Answers.readReply_eq, ?_⟩
  rintro rfl
  obtain ⟨result, hresult⟩ := exists_answers reply
  exact hresult.readReply_eq ▸ hresult

/-- A reply that is not a success is the same error to both clients, and not a rejection. -/
theorem exists_error_of_not_isSuccess (h : ¬ reply.isSuccess) :
    ∃ error, readReply reply = .error error ∧ SearchClient.readReply reply = .error error ∧
      ∀ reason, error ≠ .rejected reason := by
  by_cases hlimited : reply.status = 429
  · have hread := FetchReply.readJson_of_limited hlimited
    refine ⟨.rateLimited, by rw [readReply, hread], by rw [SearchClient.readReply, hread], ?_⟩
    rintro reason ⟨⟩
  · have hread := FetchReply.readJson_of_refused hlimited h
    refine ⟨.status _ _, by rw [readReply, hread], by rw [SearchClient.readReply, hread], ?_⟩
    rintro reason ⟨⟩

/-- Every reply has exactly one answer, and that is read off without a look at the observation where
the document reports an error: such a document is a refusal, beside whatever observation it stands.
A reply that is not a success is no refusal but the error that a search gives for it. -/
theorem conditions_or_refusal (client : ObservationClient) (network : Network) (place : String)
    {request : FetchRequest} {milliseconds : Nat} (hrequest : client.request place = .ok request)
    (harrived : network request = .after milliseconds (.ok reply)) :
    (∃ result, client.observe network place = .after milliseconds result) ∧
    (∀ result, client.observe network place = .after milliseconds result ↔ Answers reply result) ∧
    (∀ (root : Fields) (fault : Json), 200 ≤ reply.status → reply.status < 300 →
      reply.Holds (.object root) → Reports root fault →
      ∃ reason, Refuses root reason ∧
        client.observe network place = .after milliseconds (.error (.rejected reason))) ∧
    (reply.status < 200 ∨ 300 ≤ reply.status → ∃ error,
      client.observe network place = .after milliseconds (.error error) ∧
      SearchClient.readReply reply = .error error ∧ ∀ reason, error ≠ .rejected reason) := by
  have hobserve : client.observe network place = .after milliseconds (readReply reply) := by
    rw [observe, exchange_of_ok hrequest, harrived, Arrival.read]
  rw [hobserve]
  refine ⟨⟨_, rfl⟩, fun result ↦ ?_, fun root fault least most holds reports ↦ ?_, fun other ↦ ?_⟩
  · rw [answers_iff, Arrival.after.injEq, eq_self_iff_true, true_and]
  · obtain ⟨reason, hreason⟩ := Option.ne_none_iff_exists'.mp fun hnone ↦
      refusal?_eq_none_iff.mp hnone fault reports
    have refuses := refusal?_eq_some_iff.mp hreason
    have hanswer : Answers reply (.error (.rejected reason)) :=
      .rejected least most holds refuses
    exact ⟨reason, refuses, by rw [hanswer.readReply_eq]⟩
  · obtain ⟨error, hread, hsearch, hother⟩ :=
      exists_error_of_not_isSuccess (FetchReply.not_isSuccess_iff.mpr other)
    exact ⟨error, by rw [hread], hsearch, hother⟩

/-- A client with a key. -/
def berlinClient : ObservationClient :=
  ⟨⟨"http", "", none, some (.domain "api.example.com"), none, [""], none, none⟩, some "k3y"⟩

/-- A success with a document for its body, which has an observation beside a `response`. -/
def reportReply (response : Json) : FetchReply :=
  ⟨200, some "application/json", some (toUtf8 (Json.object
    [("current_observation", .object [("temp_c", .ofNat 12)]), ("response", response)]).text)⟩

theorem reportReply_holds {response : Json} {tree : Tree} (hprints : response.PrintsAs tree)
    (hread : Tree.toJson? (maxNesting - 1) tree = some response) :
    (reportReply response).Holds (.object
      [("current_observation", .object [("temp_c", .ofNat 12)]), ("response", response)]) := by
  have hobserved : MemberPrintsAs ("current_observation", .object [("temp_c", .ofNat 12)])
      (some "current_observation", .object [(some "temp_c", .number (integerLiteral 12))]) :=
    ⟨rfl, printsAs_object (.cons ⟨rfl, printsAs_integer 12⟩ .nil)⟩
  have hresponse : MemberPrintsAs ("response", response) (some "response", tree) := ⟨rfl, hprints⟩
  have htemperature : Tree.toJson? (maxNesting - 1)
      (.object [(some "temp_c", .number (integerLiteral 12))]) =
      some (.object [("temp_c", .ofNat 12)]) := rfl
  have hvalues : Tree.memberValues? (maxNesting - 1) [(some "current_observation", .object
      [(some "temp_c", .number (integerLiteral 12))]), (some "response", tree)] =
      some [("current_observation", .object [("temp_c", .ofNat 12)]), ("response", response)] := by
    rw [Tree.memberValues?, Tree.memberValues?, htemperature, hread]
    rfl
  refine FetchReply.holds_of_printsAs rfl
    (printsAs_object (.cons hobserved (.cons hresponse .nil))) ?_
  calc Tree.toJson? (maxNesting - 1 + 1) _
    _ = (Tree.memberValues? (maxNesting - 1) _).map fun values ↦
        .object (Fields.ofMembers values) := rfl
    _ = _ := by
      have horder : ¬ "response" < "current_observation" := by decide
      have hother : "response" ≠ "current_observation" := by decide
      simp [hvalues, Fields.ofMembers, Fields.insert, horder, hother]

/-- An error whose type is no text. -/
def oddFault : Json :=
  .object [("description", .string "No cities match"), ("type", .ofNat 7)]

theorem exists_berlinClient_request :
    ∃ request, berlinClient.request "Germany/Berlin" = .ok request := by
  have hmade : (berlinClient.request "Germany/Berlin").isOk = true := by decide +kernel
  cases hrequest : berlinClient.request "Germany/Berlin" with
  | error error => cases hrequest ▸ hmade
  | ok request => exact ⟨request, rfl⟩

/-- An observation is not served beside an error, and it is beside a word that only looks like
one. -/
theorem oddFault_refused : ∃ request, berlinClient.request "Germany/Berlin" = .ok request ∧
    berlinClient.observe (fun _ ↦ .after 12 (.ok (reportReply (.object [("error", oddFault)]))))
      "Germany/Berlin" = .after 12 (.error (.rejected "error: No cities match")) ∧
    berlinClient.observe (fun _ ↦ .after 12 (.ok (reportReply (.string "error"))))
      "Germany/Berlin" = .after 12 (.ok [("temp_c", .ofNat 12)]) := by
  obtain ⟨request, hrequest⟩ := exists_berlinClient_request
  have hfault : MemberPrintsAs ("error", oddFault) (some "error", .object
      [(some "description", .string (some "No cities match")),
        (some "type", .number (integerLiteral 7))]) :=
    ⟨rfl, printsAs_object (.cons ⟨rfl, printsAs_string _⟩ (.cons ⟨rfl, printsAs_integer 7⟩ .nil))⟩
  have hcross := reportReply_holds (printsAs_object (.cons hfault .nil)) rfl
  have hplain := reportReply_holds (printsAs_string "error") rfl
  refine ⟨request, hrequest, ?_, ?_⟩
  · have hkind : SaysOr oddFault "type" "error" "error" := saysOr_iff.mpr rfl
    have hwords : SaysOr oddFault "description" "no description" "No cities match" :=
      saysOr_iff.mpr rfl
    exact ((conditions_or_refusal berlinClient _ "Germany/Berlin" hrequest rfl).2.1 _).mpr
      (.rejected (by decide) (by decide) hcross (.intro ⟨_, rfl, rfl⟩ hkind hwords))
  · have hclear : ∀ fault, ¬ Reports [("current_observation", .object [("temp_c", .ofNat 12)]),
        ("response", .string "error")] fault := by
      rintro fault ⟨response, hresponse, -⟩
      cases hresponse
    exact ((conditions_or_refusal berlinClient _ "Germany/Berlin" hrequest rfl).2.1 _).mpr
      (.observed (by decide) (by decide) hplain hclear rfl)

end ObservationClient

end ContextProvider
