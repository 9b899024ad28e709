import ContextProvider.Proofs.Backend.Live
import ContextProvider.Proofs.Client.Request
import ContextProvider.Proofs.Query.Precedence
import ContextProvider.Proofs.Service.Setup
import ContextProvider.Proofs.Url.Form
import ContextProvider.Proofs.Url.Path

/-!
# Search terms and requests

A term stands in the query of its request behind the pairs of the base, as one pair of its own, and
nothing in it reads as more than that. So it can be read from the request again, and terms that
differ are asked for by requests that differ. A term that makes the URL too long is not asked for,
no term is asked for at a host that no request can go to, and a client without a token asks for
nothing.
-/

namespace ContextProvider

open Text

/-! ## Requests that are made -/

namespace FetchRequest

/-- A text of visible ASCII characters, at least one. -/
def IsToken (token : String) : Prop :=
  token ≠ "" ∧ ∀ c ∈ token.toList, 0x21 ≤ c.toNat ∧ c.toNat ≤ 0x7E

theorem IsToken.isHeaderText {token : String} (h : IsToken token) :
    isHeaderText ("Bearer " ++ token) := by
  have hword : ∀ c ∈ "Bearer ".toList, 0x20 ≤ c.toNat ∧ c.toNat ≤ 0x7E := by simp
  have hchars : ∀ c ∈ ("Bearer " ++ token).toList, 0x20 ≤ c.toNat ∧ c.toNat ≤ 0x7E := by
    rw [String.toList_append, List.forall_mem_append]
    refine ⟨hword, fun c hc ↦ ?_⟩
    have := h.2 c hc
    omega
  have hascii : IsAscii ("Bearer " ++ token).toList := fun c hc ↦
    Nat.lt_of_le_of_lt (hchars c hc).2 (by decide)
  have hbytes : toUtf8 ("Bearer " ++ token) = ("Bearer " ++ token).toList.map asciiByte := by
    rw [← toUtf8_of_ascii hascii, String.ofList_toList]
  rw [FetchRequest.isHeaderText, hbytes, List.all_map, List.all_eq_true]
  intro c hc
  have hbounds := hchars c hc
  have hbyte : (asciiByte c).toNat = c.toNat :=
    UInt8.toNat_ofNat_of_lt' (Nat.lt_of_le_of_lt hbounds.2 (by decide))
  simp only [Function.comp_apply, isHeaderByte, Bool.or_eq_true, Bool.and_eq_true,
    decide_eq_true_eq, bne_iff_ne, ne_eq, UInt8.le_iff_toNat_le, ← UInt8.toNat_inj, hbyte,
    UInt8.reduceToNat]
  omega

end FetchRequest

namespace SearchClient

/-- A request at the place of a base for a term: its path is that of the base, without a trailing
slash, and the path of the search; the pairs of its query are those of the base and two more. -/
structure AsksFor (base : Url) (path : List String) (count : Nat) (term : String)
    (request : FetchRequest) : Prop where
  place : request.url.scheme = base.scheme ∧ request.url.host = base.host ∧
    request.url.portNumber = base.portNumber
  path : request.url.path = path ++ ["1.1", "search", "tweets.json"]
  query : ∃ query, request.url.query = some query ∧ Url.readPairs query.toList =
    Url.readPairs (base.query.getD "").toList ++ [("q", term), ("count", toString count)]

/-- The path of the search stands behind the path of the base. -/
theorem extend_segments (special : Bool) {path front : List String}
    (h : Url.HasSegments path front) :
    Url.extend special path segments = front ++ segments := by
  have hkept : segments.map (Url.encodeSegment special) = segments := by
    cases special <;> decide +kernel
  have hsegments : ∀ segment ∈ segments, Url.IsSegment segment := by
    intro segment hsegment
    apply Url.isSegment_of_isOneLine
    · revert segment
      decide
    · revert segment
      decide
  calc Url.extend special path segments
    _ = Url.stem path ++ segments.map (Url.encodeSegment special) :=
      Url.extend_of_isSegment special path (by cases special <;> decide +kernel) hsegments
    _ = front ++ segments := by rw [hkept, h.stem_eq]

variable {client : SearchClient} {token : String}

theorem asksFor_asked {front : List String} (hpath : Url.HasSegments client.base.path front)
    (term : String) (authorization : List String) :
    AsksFor client.base front client.count term
      ⟨FetchRequest.asked (client.url term), authorization⟩ := by
  refine ⟨FetchRequest.place_asked _, ?_, _, FetchRequest.query_asked _, ?_⟩
  · rw [FetchRequest.path_asked]
    exact extend_segments _ hpath
  · rw [String.toList_ofList, Url.readPairs_appendPairs]
    rfl

/-- The term of a request can be read from it. -/
theorem AsksFor.term_eq {base : Url} {front : List String} {count : Nat} {term term' : String}
    {request : FetchRequest} (h : AsksFor base front count term request)
    (h' : AsksFor base front count term' request) : term = term' := by
  obtain ⟨query, hquery, hpairs⟩ := h.query
  obtain ⟨query', hquery', hpairs'⟩ := h'.query
  cases hquery.symm.trans hquery'
  simpa using hpairs.symm.trans hpairs'

/-! ### Whether a term is sent -/

/-- The error of a term whose URL cannot be sent. -/
def unsendable (client : SearchClient) (term : String) : FetchError :=
  FetchRequest.unsendable (some (FetchRequest.bare (client.url term))) FetchRequest.urlFault

/-- A client with a token, whose requests fail for no other reason than that their URL cannot be
sent. -/
structure IsReady (client : SearchClient) (token : String) : Prop where
  given : client.token = some token
  visible : FetchRequest.IsToken token
  scheme : client.base.scheme = "http" ∨ client.base.scheme = "https"
  encoded : client.base.IsEncoded

theorem IsReady.isEncoded_url (h : IsReady client token) (term : String) :
    (client.url term).IsEncoded :=
  (h.encoded.join segments).addPairs (client.pairs term)

theorem IsReady.request_eq_ok (h : IsReady client token) {term : String}
    (hsend : FetchRequest.CanSend (client.url term)) : client.request term =
      .ok ⟨FetchRequest.asked (client.url term),
        (FetchRequest.basicAuthorization? (client.url term)).toList ++ ["Bearer " ++ token]⟩ := by
  simp only [request, h.given]
  exact FetchRequest.make_eq_ok (h.isEncoded_url term) h.scheme h.visible.isHeaderText hsend

theorem IsReady.request_eq_error (h : IsReady client token) {term : String}
    (hsend : ¬ FetchRequest.CanSend (client.url term)) :
    client.request term = .error (client.unsendable term) := by
  simp only [request, h.given]
  exact FetchRequest.make_eq_error (h.isEncoded_url term) h.scheme h.visible.isHeaderText hsend

theorem request_of_no_token (htoken : client.token = none) (term : String) :
    client.request term = .error (.notConfigured "twitter bearer token") := by
  rw [request, htoken]

/-- Requests that are sent for terms are the same only if the terms are. -/
theorem IsReady.term_eq_of_mem_sent {front : List String} (h : IsReady client token)
    (hpath : Url.HasSegments client.base.path front) {network network' : Network}
    {term term' : String} {request : FetchRequest}
    (hsent : request ∈ (client.exchange network term).sent)
    (hsent' : request ∈ (client.exchange network' term').sent) : term = term' := by
  have hasks {network : Network} {term : String}
      (hsent : request ∈ (client.exchange network term).sent) :
      AsksFor client.base front client.count term request := by
    by_cases hsend : FetchRequest.CanSend (client.url term)
    · rw [exchange_of_ok (h.request_eq_ok hsend)] at hsent
      cases List.mem_singleton.mp hsent
      exact asksFor_asked hpath term _
    · rw [exchange_of_error (h.request_eq_error hsend)] at hsent
      cases hsent
  exact (hasks hsent).term_eq (hasks hsent')

/-- Exclamation marks are encoded in three characters each. -/
theorem length_formText_replicate (n : Nat) :
    (Url.formText (String.ofList (List.replicate n '!'))).length = 3 * n := by
  have hascii : IsAscii (List.replicate n '!') := by
    intro c hc
    rw [List.eq_of_mem_replicate hc]
    decide
  have hmark : (Url.formByte (asciiByte '!')).length = 3 := rfl
  rw [Url.formText, toUtf8_of_ascii hascii, List.map_replicate, List.length_flatMap,
    List.map_replicate, List.sum_replicate_nat, hmark, Nat.mul_comm]

/-- A term has its length in the URL that it is sent in. -/
theorem length_formText_le {client : SearchClient} {term : String}
    (h : FetchRequest.CanSend (client.url term)) :
    (Url.formText term).length ≤ Url.sendableLength := by
  have hpair : ("q", term) ∈ client.pairs term := List.mem_cons_self
  have hvalue : (Url.formText term).length ≤ (Url.formPair ("q", term)).length := by
    simp only [Url.formPair, List.length_append, List.length_cons]
    omega
  calc (Url.formText term).length
    _ ≤ (Url.formPair ("q", term)).length := hvalue
    _ ≤ (Url.appendPairs _ (client.pairs term)).length :=
      (Url.formPair_isInfix_appendPairs _ hpair).length_le
    _ ≤ _ := Url.length_le_utf8ByteSize _
    _ ≤ (FetchRequest.bare (client.url term)).text.utf8ByteSize :=
      Url.utf8ByteSize_query_le (FetchRequest.query_bare (client.url term))
    _ ≤ Url.sendableLength := h.1

/-- A client without a token is the same over every network. -/
theorem backend_of_no_token (htoken : client.token = none) (network network' : Network)
    (limit : Nat) : client.backend network limit = client.backend network' limit := by
  have hsearch : client.search network = client.search network' := by
    funext term
    have hrequest := request_of_no_token htoken term
    rw [search, search, exchange_of_error hrequest, exchange_of_error hrequest]
  rw [backend, backend, hsearch]

end SearchClient

/-! ## Configured searches -/

/-- There is a client for the usual place of observations. -/
theorem ObservationClient.exists_ofConfig_usual : ∃ client, ofConfig {} = .ok client := by
  have hbase : Url.ofText "http://api.wunderground.com" = .ok
      ⟨"http", "", none, some (.domain "api.wunderground.com"), none, [""], none, none⟩ := by
    decide +kernel
  rw [ofConfig, hbase]
  exact ⟨_, rfl⟩

theorem queryContext_congr_find? {registry registry' : Registry} {kind : BackendKind}
    (h : registry.find? kind = registry'.find? kind) (type mapping : String) (selector : Selector)
    (body : List UInt8) : queryContext registry kind type mapping selector body =
      queryContext registry' kind type mapping selector body := by
  simp only [queryContext, Registry.get, h]

/-- A list of attributes is answered from one exchange for its term. -/
theorem queryContext_of_term {config : Config} {client : SearchClient} {network : Network}
    {draws : Random.Draws} {registry : Registry}
    (hclient : SearchClient.ofConfig config.search = .ok client)
    (hregistry : config.backends network draws = .ok registry) {term : String}
    (hterm : isBlank term = false) {type mapping : String} {body : List UInt8}
    {entity : Entity} (hread : readEntity body = .ok entity) {m : Mapping}
    (hparsed : Mapping.parse type mapping = .ok m) (hlist : ∀ spec ∈ m.specs, spec.shape = .list) :
    queryContext registry .twitter type mapping (.ofText term) body =
      ⟨assemble entity m (Live.values .twitter Search.column m.specs
        ((client.exchange network term).arrival.within config.timeout)), [.search term]⟩ := by
  have hgiven : (Selector.ofText term).value? = some term := by
    rw [Selector.value?_ofText, if_neg (by simp [hterm])]
  have hfetch : (client.backend network config.timeout).fetch m (.ofText term) =
      ⟨Live.values .twitter Search.column m.specs
        ((client.search network term).within config.timeout), [.search term]⟩ :=
    (Live.Turn.asked hlist hgiven).eq_fetch
  have hfound := Config.find?_twitter hclient hregistry
  rw [(Course.fetched hread hparsed hfound).eq_queryContext, hfetch, SearchClient.search]

/-- If there is no request for a term, the search is unavailable. -/
theorem queryContext_of_unasked {config : Config} {client : SearchClient} {network : Network}
    {draws : Random.Draws} {registry : Registry}
    (hclient : SearchClient.ofConfig config.search = .ok client)
    (hregistry : config.backends network draws = .ok registry) {term : String}
    (hterm : isBlank term = false) {type mapping : String} {body : List UInt8}
    {entity : Entity} (hread : readEntity body = .ok entity) {m : Mapping}
    (hparsed : Mapping.parse type mapping = .ok m) (hlist : ∀ spec ∈ m.specs, spec.shape = .list)
    {error : FetchError} (hunasked : client.request term = .error error) :
    queryContext registry .twitter type mapping (.ofText term) body =
      ⟨.failure entity (.unavailable .twitter error), [.search term]⟩ := by
  rw [queryContext_of_term hclient hregistry hterm hread hparsed hlist,
    SearchClient.exchange_of_error hunasked]
  rfl

/-- The settings of a search at a host whose name holds a brace. -/
def bracedSearch : SearchConfig where
  baseUrl := "http://a\x7bb.example/"
  bearerToken := some "t0k3n"
  count := 3

/-- The client of the search at that host. -/
def bracedClient : SearchClient where
  base := ⟨"http", "", none, some (.domain "a\x7bb.example"), none, [""], none, none⟩
  token := some "t0k3n"
  count := 3

/-- The client of a search with a token and no other settings. -/
def usualClient : SearchClient where
  base := ⟨"https", "", none, some (.domain "api.twitter.com"), none, [""], none, none⟩
  token := some "t0k3n"
  count := 15

/-- A search below a path that has pairs of its own, without a token in its configuration. -/
def nestedSearch : Config where
  search := { baseUrl := "https://user@search.example/v2/?lang=en&x", bearerToken := some "" }

/-- The base of the search below a path. -/
def nestedSearchBase : Url :=
  ⟨"https", "user", none, some (.domain "search.example"), none, ["v2", ""], some "lang=en&x", none⟩

theorem nestedSearch_base : Url.ofText nestedSearch.search.baseUrl = .ok nestedSearchBase := by
  decide +kernel

/-- A term with every mark of a query goes out as one pair. -/
example : ((SearchClient.mk nestedSearchBase none 15).url "a&q=b #%26\n+é").text =
    "https://user@search.example/v2/1.1/search/tweets.json" ++
      "?lang=en&x&q=a%26q%3Db+%23%2526%0A%2B%C3%A9&count=15" := by
  decide +kernel

/-- The least number of every range, and one tag. -/
def Random.Draws.least : Random.Draws where
  scalar _ range := ⟨range.low, Rat.le_refl, Rat.intCast_le_intCast.mpr range.low_le_high⟩
  tag _ _ := ⟨List.replicate tagLength 'A', rfl, List.forall_mem_replicate.mpr (.inr (by decide))⟩

end ContextProvider
