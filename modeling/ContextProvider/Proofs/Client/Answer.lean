import ContextProvider.Client.Search
import ContextProvider.Proofs.Backend.Traversal
import ContextProvider.Proofs.Client.Failure
import ContextProvider.Proofs.Json.Printed

/-!
# The answers of a search

Every reply to a search has one answer. Its status comes first: too many requests, or any other
status outside the two hundreds, is an error whatever the body. The body of a success lists results
if it is an object whose `statuses` are objects only; the answer is then that list as it stands. A
single item that is no object, wherever it stands, spoils the whole list, and so does everything
else that is missing.
-/

namespace ContextProvider

open Json Text

/-! ## Bodies -/

namespace FetchReply

/-- The body is there and writes a JSON value. -/
def Holds (reply : FetchReply) (value : Json) : Prop :=
  ∃ (bytes : List UInt8) (tree : Tree), reply.body = some bytes ∧
    tree.WrittenText (symbols bytes) ∧ Tree.toJson? maxNesting tree = some value

variable {reply : FetchReply}

theorem decoded_eq_some_iff {value : Json} :
    reply.body.bind ofJsonBytes? = some value ↔ reply.Holds value := by
  simp only [Option.bind_eq_some_iff, ofJsonBytes?, Tree.ofBytes?, Tree.ofSymbols?_eq_some_iff,
    Holds]
  grind

theorem Holds.eq {value other : Json} (h : reply.Holds value) (hother : reply.Holds other) :
    value = other := by
  rw [← decoded_eq_some_iff] at h hother
  exact Option.some.inj (h.symm.trans hother)

/-- A printed value is held by a body of its bytes, provided it is read as itself. -/
theorem holds_of_printsAs {value : Json} {tree : Tree}
    (hbody : reply.body = some (toUtf8 value.text)) (hprints : value.PrintsAs tree)
    (hread : Tree.toJson? maxNesting tree = some value) : reply.Holds value :=
  ⟨_, tree, hbody, Tree.ofSymbols?_eq_some_iff.mp hprints.ofBytes?_eq, hread⟩

end FetchReply

/-! ## Results -/

namespace SearchClient

theorem resultFields_eq_ok_iff {value : Json} {fields : Fields} :
    resultFields value = .ok fields ↔ value = .object fields := by
  cases value <;> simp [resultFields, fields?]

theorem resultFields_of_other {value : Json} (h : ∀ fields, value ≠ .object fields) :
    resultFields value =
      .error (.malformed ("search result is not an object: " ++ value.text)) := by
  cases value with
  | object fields => exact absurd rfl (h fields)
  | null | bool | number | string | array => rfl

/-- The items of a list are results exactly if they are objects, in the same order. -/
theorem mapM_resultFields_eq_ok_iff {items : List Json} {results : List Fields} :
    items.mapM resultFields = .ok results ↔ items = results.map .object := by
  simp only [mapM_eq_ok_iff, resultFields_eq_ok_iff]
  rw [← List.forall₂_map_right_iff (R := Eq), List.forall₂_eq_eq_eq]

variable {reply : FetchReply} {items : List Fields} {reason : String}

/-- The body of a reply lists results: an object whose `statuses` are objects only. -/
def Lists (reply : FetchReply) (items : List Fields) : Prop :=
  ∃ root : Fields, reply.Holds (.object root) ∧
    root.get? "statuses" = some (.array (items.map .object))

/-- What keeps a body from listing results, with the reason that is given for it. -/
inductive Malformed (reply : FetchReply) : String → Prop
  | undecodable (none : ∀ value, ¬ reply.Holds value) :
      Malformed reply "error decoding response body"
  | root {value : Json} (holds : reply.Holds value) (other : ∀ root, value ≠ .object root) :
      Malformed reply "search response is not an object"
  | missing {root : Fields} (holds : reply.Holds (.object root))
      (missing : root.get? "statuses" = none) :
      Malformed reply "search response has no 'statuses'"
  | shape {root : Fields} {value : Json} (holds : reply.Holds (.object root))
      (given : root.get? "statuses" = some value) (other : ∀ items, value ≠ .array items) :
      Malformed reply "'statuses' is not an array"
  | item {root : Fields} {before : List Fields} {value : Json} {after : List Json}
      (holds : reply.Holds (.object root))
      (given : root.get? "statuses" = some (.array (before.map .object ++ value :: after)))
      (other : ∀ item, value ≠ .object item) :
      Malformed reply ("search result is not an object: " ++ value.text)

/-- The answer to a search, from its reply. -/
inductive Answers (reply : FetchReply) : Except FetchError (List Fields) → Prop
  | rateLimited (status : reply.status = 429) : Answers reply (.error .rateLimited)
  | refused (other : reply.status ≠ 429) (status : reply.status < 200 ∨ 300 ≤ reply.status) :
      Answers reply
        (.error (.status reply.status (FetchReply.errorMessage reply.text reply.status)))
  | listed {items : List Fields} (least : 200 ≤ reply.status) (most : reply.status < 300)
      (lists : Lists reply items) : Answers reply (.ok items)
  | malformed {reason : String} (least : 200 ≤ reply.status) (most : reply.status < 300)
      (malformed : Malformed reply reason) : Answers reply (.error (.malformed reason))

theorem exists_lists_or_malformed (reply : FetchReply) :
    (∃ items, Lists reply items) ∨ ∃ reason, Malformed reply reason := by
  cases hdecoded : reply.body.bind ofJsonBytes? with
  | none =>
    refine .inr ⟨_, .undecodable fun value hvalue ↦ ?_⟩
    cases hdecoded.symm.trans (FetchReply.decoded_eq_some_iff.mpr hvalue)
  | some value =>
    have hvalue := FetchReply.decoded_eq_some_iff.mp hdecoded
    cases value with
    | object root =>
      cases hgiven : Fields.get? root "statuses" with
      | none => exact .inr ⟨_, .missing hvalue hgiven⟩
      | some given =>
        cases given with
        | array items =>
          cases hrun : items.mapM resultFields with
          | ok results =>
            rw [mapM_resultFields_eq_ok_iff.mp hrun] at hgiven
            exact .inl ⟨results, root, hvalue, hgiven⟩
          | error error =>
            obtain ⟨before, value, after, rfl, hbefore, hitem⟩ := mapM_eq_error_iff.mp hrun
            obtain ⟨results, hresults⟩ := exists_mapM_eq_ok_iff.mpr hbefore
            rw [mapM_resultFields_eq_ok_iff.mp hresults] at hgiven
            refine .inr ⟨_, .item hvalue hgiven ?_⟩
            rintro item rfl
            cases (resultFields_eq_ok_iff.mpr rfl).symm.trans hitem
        | null | bool | number | string | object => exact .inr ⟨_, .shape hvalue hgiven nofun⟩
    | null | bool | number | string | array => exact .inr ⟨_, .root hvalue nofun⟩

/-- One item that is no object is enough to keep a body from listing results. -/
theorem not_lists_of_item {root : Fields} {given : List Json} {value : Json}
    (hroot : reply.Holds (.object root)) (hgiven : root.get? "statuses" = some (.array given))
    (hvalue : value ∈ given) (hother : ∀ item, value ≠ .object item) : ¬ Lists reply items := by
  rintro ⟨listed, hlisted, hitems⟩
  cases hroot.eq hlisted
  cases hgiven.symm.trans hitems
  obtain ⟨item, -, hitem⟩ := List.mem_map.mp hvalue
  exact hother item hitem.symm

theorem Malformed.not_lists (h : Malformed reply reason) : ¬ Lists reply items := by
  cases h with
  | undecodable none => exact fun ⟨_, hroot, _⟩ ↦ none _ hroot
  | root holds other => exact fun ⟨_, hroot, _⟩ ↦ other _ (holds.eq hroot)
  | missing holds missing =>
    rintro ⟨root, hroot, hlisted⟩
    cases holds.eq hroot
    cases missing.symm.trans hlisted
  | shape holds given other =>
    rintro ⟨root, hroot, hlisted⟩
    cases holds.eq hroot
    exact other _ (Option.some.inj (given.symm.trans hlisted))
  | item holds given other => exact not_lists_of_item holds given (by simp) other

/-! ## Replies -/

theorem readReply_of_holds (hsuccess : reply.isSuccess) {value : Json} (h : reply.Holds value) :
    readReply reply = results value := by
  rw [readReply, FetchReply.readJson_of_value hsuccess (FetchReply.decoded_eq_some_iff.mpr h)]

theorem readReply_of_lists (hsuccess : reply.isSuccess) (h : Lists reply items) :
    readReply reply = .ok items := by
  obtain ⟨root, hroot, hlisted⟩ := h
  rw [readReply_of_holds hsuccess hroot]
  simp only [results, fields?, hlisted]
  exact mapM_resultFields_eq_ok_iff.mpr rfl

theorem readReply_of_malformed (hsuccess : reply.isSuccess) (h : Malformed reply reason) :
    readReply reply = .error (.malformed reason) := by
  cases h with
  | undecodable none =>
    have hdecoded : reply.body.bind ofJsonBytes? = Option.none := by
      rw [Option.eq_none_iff_forall_ne_some]
      exact fun value hvalue ↦ none value (FetchReply.decoded_eq_some_iff.mp hvalue)
    rw [readReply, FetchReply.readJson_of_undecodable hsuccess hdecoded]
  | @root value holds other =>
    rw [readReply_of_holds hsuccess holds]
    cases value with
    | object root => exact absurd rfl (other root)
    | null | bool | number | string | array => rfl
  | missing holds missing =>
    rw [readReply_of_holds hsuccess holds]
    simp only [results, fields?, missing]
  | @shape _ value holds given other =>
    rw [readReply_of_holds hsuccess holds]
    cases value with
    | array items => exact absurd rfl (other items)
    | null | bool | number | string | object => simp only [results, fields?, given]
  | @item _ before _ _ holds given other =>
    rw [readReply_of_holds hsuccess holds]
    simp only [results, fields?, given]
    have hbefore := exists_mapM_eq_ok_iff.mp ⟨before, mapM_resultFields_eq_ok_iff.mpr rfl⟩
    exact mapM_eq_error_iff.mpr ⟨_, _, _, rfl, hbefore, resultFields_of_other other⟩

theorem Answers.readReply_eq {result : Except FetchError (List Fields)} (h : Answers reply result) :
    readReply reply = result := by
  cases h with
  | rateLimited status => rw [readReply, FetchReply.readJson_of_limited status]
  | refused other status =>
    rw [readReply,
      FetchReply.readJson_of_refused other (FetchReply.not_isSuccess_iff.mpr status)]
  | listed least most lists =>
    exact readReply_of_lists (FetchReply.isSuccess_iff.mpr ⟨least, most⟩) lists
  | malformed least most malformed =>
    exact readReply_of_malformed (FetchReply.isSuccess_iff.mpr ⟨least, most⟩) malformed

theorem exists_answers (reply : FetchReply) : ∃ result, Answers reply result := by
  by_cases hlimited : reply.status = 429
  · exact ⟨_, .rateLimited hlimited⟩
  by_cases hrefused : reply.status < 200 ∨ 300 ≤ reply.status
  · exact ⟨_, .refused hlimited hrefused⟩
  obtain ⟨least, most⟩ : 200 ≤ reply.status ∧ reply.status < 300 := by omega
  rcases exists_lists_or_malformed reply with ⟨items, lists⟩ | ⟨reason, malformed⟩
  · exact ⟨_, .listed least most lists⟩
  · exact ⟨_, .malformed least most malformed⟩

theorem answers_iff {result : Except FetchError (List Fields)} :
    Answers reply result ↔ readReply reply = result := by
  refine ⟨Answers.readReply_eq, ?_⟩
  rintro rfl
  obtain ⟨result, hresult⟩ := exists_answers reply
  exact hresult.readReply_eq ▸ hresult

/-- Every reply to a search has exactly one answer. Whatever the body is, it lists results or is
malformed and never both; a single item that is no object makes it malformed. -/
theorem reply_answered (client : SearchClient) (network : Network) (term : String)
    {request : FetchRequest} {milliseconds : Nat} (hrequest : client.request term = .ok request)
    (harrived : network request = .after milliseconds (.ok reply)) :
    (∃ result, client.search network term = .after milliseconds result) ∧
    (∀ result, client.search network term = .after milliseconds result ↔ Answers reply result) ∧
    ((∃ reason, Malformed reply reason) ↔ ¬ ∃ items, Lists reply items) ∧
    ∀ (root : Fields) items value, reply.Holds (.object root) →
      root.get? "statuses" = some (.array items) → value ∈ items →
      (∀ item, value ≠ .object item) → ∃ reason, Malformed reply reason := by
  have hsearch : client.search network term = .after milliseconds (readReply reply) := by
    rw [search, exchange_of_ok hrequest, harrived, Arrival.read]
  refine ⟨⟨_, hsearch⟩, fun result ↦ ?_, ⟨?_, ?_⟩, ?_⟩
  · rw [hsearch, answers_iff, Arrival.after.injEq, eq_self_iff_true, true_and]
  · rintro ⟨reason, hreason⟩ ⟨items, hitems⟩
    exact hreason.not_lists hitems
  · exact (exists_lists_or_malformed reply).resolve_left
  · intro root items value hroot hgiven hvalue hother
    refine (exists_lists_or_malformed reply).resolve_left ?_
    rintro ⟨results, hresults⟩
    exact not_lists_of_item hroot hgiven hvalue hother hresults

/-- A client with a token. -/
def newsClient : SearchClient :=
  ⟨⟨"https", "", none, some (.domain "api.twitter.com"), none, [""], none, none⟩, some "t0k3n", 15⟩

/-- A success whose body gives some items for results. -/
def newsReply (items : List Json) : FetchReply :=
  ⟨200, some "application/json", some (toUtf8 (Json.object [("statuses", .array items)]).text)⟩

theorem newsReply_holds {items : List Json} {trees : List Tree}
    (hprints : List.Forall₂ PrintsAs items trees)
    (hreads : Tree.itemValues? (maxNesting - 2) trees = some items) :
    (newsReply items).Holds (.object [("statuses", .array items)]) := by
  have hmember : MemberPrintsAs ("statuses", .array items) (some "statuses", .array trees) :=
    ⟨rfl, printsAs_array hprints⟩
  have htree : Tree.toJson? maxNesting (.object [(some "statuses", .array trees)]) =
      some (.object [("statuses", .array items)]) := by
    change Tree.toJson? (maxNesting - 2 + 1 + 1) _ = _
    simp only [Tree.toJson?, Tree.memberValues?, hreads, Option.map_some]
    rfl
  exact FetchReply.holds_of_printsAs rfl (printsAs_object (.cons hmember .nil)) htree

theorem exists_newsClient_request : ∃ request, newsClient.request "berlin" = .ok request := by
  have hmade : (newsClient.request "berlin").isOk = true := by decide +kernel
  cases hrequest : newsClient.request "berlin" with
  | error error => cases hrequest ▸ hmade
  | ok request => exact ⟨request, rfl⟩

/-- Two objects are two results, one of them empty; an object and a number are none at all. -/
theorem newsReply_answered : ∃ request, newsClient.request "berlin" = .ok request ∧
    newsClient.search (fun _ ↦ .after 12 (.ok (newsReply [.object [("text", .string "first")],
      .object []]))) "berlin" = .after 12 (.ok [[("text", .string "first")], []]) ∧
    newsClient.search (fun _ ↦ .after 12 (.ok (newsReply [.object [("text", .string "first")],
      .number (.integer 7)]))) "berlin" =
        .after 12 (.error (.malformed "search result is not an object: 7")) := by
  obtain ⟨request, hrequest⟩ := exists_newsClient_request
  have hfirst : PrintsAs (.object [("text", .string "first")])
      (.object [(some "text", .string (some "first"))]) :=
    printsAs_object (.cons ⟨rfl, printsAs_string "first"⟩ .nil)
  have hlisted := newsReply_holds (.cons hfirst (.cons (printsAs_object .nil) .nil)) rfl
  have hspoilt := newsReply_holds (.cons hfirst (.cons (printsAs_integer 7) .nil)) rfl
  refine ⟨request, hrequest, ?_, ?_⟩
  · exact ((reply_answered newsClient _ "berlin" hrequest rfl).2.1 _).mpr
      (.listed (by decide) (by decide) ⟨_, hlisted, rfl⟩)
  · refine ((reply_answered newsClient _ "berlin" hrequest rfl).2.1 _).mpr
      (.malformed (by decide) (by decide) ?_)
    exact @Malformed.item _ _ [[("text", .string "first")]] _ [] hspoilt rfl nofun

end SearchClient

end ContextProvider
