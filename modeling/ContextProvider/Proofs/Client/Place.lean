import ContextProvider.Proofs.Client.Location
import ContextProvider.Proofs.Client.Request

/-!
# Places in requests

The parts of a place decide the URL for it and what is sent, and they can be read from the URL: each
of them is one segment of the path, behind the path of the base. Parts that no segment can be made
of, namely dots, and parts that a segment loses something of, those with tabs or line ends, are set
apart here. A trailing slash of the base makes no difference.
-/

namespace ContextProvider

open Text Url

/-- URLs that are written alike and have all but the path in common have paths that are written
alike. -/
theorem Url.pathText_eq_of_text_eq {url : Url} {path path' : List String}
    (h : text { url with path := path } = text { url with path := path' }) :
    pathText path = pathText path' := by
  have hfront : authorityText { url with path := path } =
    authorityText { url with path := path' } := rfl
  simpa only [text, hfront, String.append_left_inj, String.append_right_inj] using h

namespace ObservationClient

variable {config : ObservationConfig} {client : ObservationClient} {key place : String}
  {parts front segments : List String} {city : String}

/-! ## Parts and texts of a path -/

/-- The key and the parts of a place are on one line, and neither the key nor any part but the city
is dots. -/
structure IsClear (key place : String) : Prop where
  key_isOneLine : IsOneLine key
  key_not_isDots : ¬ IsDots key
  parts_isOneLine : ∀ part ∈ placeParts place, IsOneLine part
  parts_not_isDots : ∀ part ∈ (placeParts place).dropLast, ¬ IsDots part

theorem segments?_eq_none_iff : segments? key place = none ↔ placeParts place = [] := by
  rw [segments?, Option.map_eq_none_iff, List.getLast?_eq_none_iff]

theorem segments?_eq_some_iff : segments? key place = some segments ↔
    ∃ parts city, placeParts place = parts ++ [city] ∧
      segments = ["api", key, "conditions", "q"] ++ parts ++ [city ++ ".json"] := by
  rw [segments?, Option.map_eq_some_iff]
  constructor
  · rintro ⟨city, hcity, rfl⟩
    exact ⟨_, city, (List.dropLast_append_getLast? city hcity).symm, rfl⟩
  · rintro ⟨parts, city, hparts, rfl⟩
    rw [hparts, List.getLast?_concat, List.dropLast_concat]
    exact ⟨city, rfl, rfl⟩

/-- The parts can be read from the texts of the path. -/
theorem segments?_eq_iff {place' : String} : segments? key place = segments? key place' ↔
    placeParts place = placeParts place' := by
  constructor
  · intro hsame
    cases hsegments : segments? key place with
    | none =>
      rw [segments?_eq_none_iff.mp hsegments, eq_comm]
      exact segments?_eq_none_iff.mp (hsame.symm.trans hsegments)
    | some segments =>
      obtain ⟨parts, city, hparts, rfl⟩ := segments?_eq_some_iff.mp hsegments
      obtain ⟨parts', city', hparts', htexts⟩ :=
        segments?_eq_some_iff.mp (hsame.symm.trans hsegments)
      obtain ⟨hfront, hlast⟩ := List.append_inj' htexts rfl
      have hcity : city = city' := by simpa using hlast
      rw [hparts, hparts', List.append_cancel_left hfront, hcity]
  · intro hparts
    rw [segments?, segments?, hparts]

/-- A clear place leads to texts that are on one line and become segments. -/
theorem IsClear.isOneLine_and_isSegment (h : IsClear key place)
    (hsegments : segments? key place = some segments) :
    ∀ text ∈ segments, IsOneLine text ∧ IsSegment text := by
  obtain ⟨parts, city, hparts, rfl⟩ := segments?_eq_some_iff.mp hsegments
  have hlines := h.parts_isOneLine
  have hdots := h.parts_not_isDots
  rw [hparts, List.forall_mem_append, List.forall_mem_singleton] at hlines
  rw [hparts, List.dropLast_concat] at hdots
  have hword {word : String} (hword : word.toList.all Char.isAlphanum) :
      IsOneLine word ∧ IsSegment word :=
    ⟨isOneLine_of_isAlphanum hword, isSegment_of_isAlphanum hword⟩
  have hkey : IsOneLine key ∧ IsSegment key :=
    ⟨h.key_isOneLine, isSegment_of_isOneLine h.key_isOneLine h.key_not_isDots⟩
  have hcity : IsOneLine (city ++ ".json") ∧ IsSegment (city ++ ".json") :=
    ⟨hlines.2.append (by decide), isSegment_append_json city⟩
  simp only [List.forall_mem_append, List.forall_mem_cons]
  refine ⟨⟨⟨hword (by decide), hkey, hword (by decide), hword (by decide), List.forall_mem_nil _⟩,
    fun part hpart ↦ ?_⟩, hcity, List.forall_mem_nil _⟩
  exact ⟨hlines.1 part hpart, isSegment_of_isOneLine (hlines.1 part hpart) (hdots part hpart)⟩

/-! ## Requests -/

/-- The path for a place, behind the path of the base. -/
theorem extend_segments?_eq (special : Bool) (path : List String)
    (hsegments : segments? key place = some segments) :
    extend special path segments = segments.tail.foldl (push special) (stem path ++ ["api"]) := by
  obtain ⟨parts, city, -, rfl⟩ := segments?_eq_some_iff.mp hsegments
  have hwords : ∀ word ∈ "api" :: [], word.toList.all Char.isAlphanum := by decide
  exact extend_words special path (by decide) hwords _

/-- Every text for a clear place is one segment behind the path of the base. -/
theorem IsClear.extend_eq (h : IsClear key place) (hsegments : segments? key place = some segments)
    (special : Bool) {path : List String} (hpath : HasSegments path front) :
    extend special path segments = front ++ segments.map (encodeSegment special) := by
  have htexts := h.isOneLine_and_isSegment hsegments
  obtain ⟨parts, city, -, rfl⟩ := segments?_eq_some_iff.mp hsegments
  rw [← hpath.stem_eq]
  exact extend_of_isSegment special path (by cases special <;> decide +kernel)
    fun text htext ↦ (htexts text htext).2

theorem url_of_no_parts (hparts : placeParts place = []) :
    client.url key place = .error (.rejected ("invalid location '" ++ place ++ "'")) := by
  simp only [url, segments?_eq_none_iff.mpr hparts]

/-- The URL for a place is the base with another path. -/
theorem url_of_segments? (hsegments : segments? key place = some segments) :
    client.url key place = .ok (client.base.join segments) := by
  simp only [url, hsegments]

theorem request_of_no_parts (hkey : client.key = some key) (hparts : placeParts place = []) :
    client.request place = .error (.rejected ("invalid location '" ++ place ++ "'")) := by
  simp only [request, hkey, url_of_no_parts hparts]

theorem request_of_segments? (hkey : client.key = some key)
    (hsegments : segments? key place = some segments) :
    client.request place = FetchRequest.make (client.base.join segments) none := by
  simp only [request, hkey, url_of_segments? hsegments]

/-- A client with a key, whose requests fail for no other reason than that their URL cannot be
sent. -/
structure IsReady (client : ObservationClient) (key : String) : Prop where
  given : client.key = some key
  scheme : client.base.scheme = "http" ∨ client.base.scheme = "https"
  encoded : client.base.IsEncoded

/-- A place is asked for by one request, if its URL can be sent. -/
theorem IsReady.request_eq_ok (h : IsReady client key)
    (hsegments : segments? key place = some segments)
    (hsend : FetchRequest.CanSend (client.base.join segments)) : client.request place =
      .ok ⟨FetchRequest.asked (client.base.join segments),
        (FetchRequest.basicAuthorization? (client.base.join segments)).toList⟩ := by
  rw [request_of_segments? h.given hsegments,
    FetchRequest.make_eq_ok (h.encoded.join segments) h.scheme rfl hsend, Option.toList_none,
    List.append_nil]

theorem IsReady.request_eq_error (h : IsReady client key)
    (hsegments : segments? key place = some segments)
    (hsend : ¬ FetchRequest.CanSend (client.base.join segments)) :
    ∃ error, client.request place = .error error := by
  rw [request_of_segments? h.given hsegments,
    FetchRequest.make_eq_error (h.encoded.join segments) h.scheme rfl hsend]
  exact ⟨_, rfl⟩

theorem toOption_url (client : ObservationClient) (key place : String) :
    (client.url key place).toOption = (segments? key place).map client.base.join := by
  unfold url
  cases segments? key place <;> rfl

/-- The parts decide the URL and what is sent. -/
theorem url_congr {place' : String} (h : placeParts place = placeParts place') :
    (client.url key place).toOption = (client.url key place').toOption := by
  rw [toOption_url, toOption_url, segments?_eq_iff.mpr h]

theorem sent_congr (hkey : client.key = some key) {place' : String}
    (h : placeParts place = placeParts place') (network : Network) :
    (client.exchange network place).sent = (client.exchange network place').sent := by
  have hsame : segments? key place = segments? key place' := segments?_eq_iff.mpr h
  rw [exchange, FetchRequest.sent_exchange, exchange, FetchRequest.sent_exchange]
  simp only [request, url, hkey, hsame]
  cases segments? key place' <;> rfl

/-- Bases that differ in a trailing slash only lead to the same URLs. -/
theorem url_congr_stem {client' : ObservationClient} {path : List String}
    (hbase : client'.base = { client.base with path := path })
    (hstem : stem path = stem client.base.path) (place : String) :
    client'.url key place = client.url key place := by
  cases hsegments : segments? key place with
  | none =>
    have hparts := segments?_eq_none_iff.mp hsegments
    rw [url_of_no_parts hparts, url_of_no_parts hparts]
  | some segments =>
    rw [url_of_segments? hsegments, url_of_segments? hsegments, Url.join, Url.join,
      extend_segments?_eq _ _ hsegments, extend_segments?_eq _ _ hsegments, hbase, hstem]
    rfl

/-- Clear places whose paths are written alike behind the same base have the same parts. -/
theorem parts_eq_of_text_eq {place' : String} {segments' : List String} {base : Url}
    {special : Bool} {path : List String} (hpath : HasSegments path front) (h : IsClear key place)
    (h' : IsClear key place') (hsegments : segments? key place = some segments)
    (hsegments' : segments? key place' = some segments')
    (hsame : Url.text { base with path := extend special path segments } =
      Url.text { base with path := extend special path segments' }) :
    placeParts place = placeParts place' := by
  rw [h.extend_eq hsegments special hpath, h'.extend_eq hsegments' special hpath] at hsame
  have htexts : segments = segments' := by
    apply texts_eq_of_pathText_eq special front
    · exact fun text htext ↦ (h.isOneLine_and_isSegment hsegments text htext).1
    · exact fun text htext ↦ (h'.isOneLine_and_isSegment hsegments' text htext).1
    · exact pathText_eq_of_text_eq hsame
  exact segments?_eq_iff.mp (hsegments.trans (htexts ▸ hsegments'.symm))

theorem parts_eq_of_urlText_eq {place' : String} (hpath : HasSegments client.base.path front)
    (h : IsClear key place) (h' : IsClear key place')
    (hsame : (client.url key place).toOption.map Url.text =
      (client.url key place').toOption.map Url.text) :
    placeParts place = placeParts place' := by
  rw [toOption_url, toOption_url, Option.map_map, Option.map_map] at hsame
  cases hsegments : segments? key place with
  | none =>
    rw [hsegments, Option.map_none, eq_comm, Option.map_eq_none_iff] at hsame
    exact segments?_eq_iff.mp (hsegments.trans hsame.symm)
  | some segments =>
    rw [hsegments, Option.map_some, eq_comm, Option.map_eq_some_iff] at hsame
    obtain ⟨segments', hsegments', htext⟩ := hsame
    exact parts_eq_of_text_eq hpath h h' hsegments hsegments' htext.symm

/-- What is sent for a place is sent for its path below the base. -/
theorem IsReady.exists_of_mem_sent (h : IsReady client key) {network : Network}
    {request : FetchRequest} (hsent : request ∈ (client.exchange network place).sent) :
    ∃ segments, segments? key place = some segments ∧ request.url =
      { FetchRequest.asked client.base with
        path := extend client.base.isSpecial client.base.path segments } := by
  cases hsegments : segments? key place with
  | none =>
    have hparts := segments?_eq_none_iff.mp hsegments
    rw [exchange_of_error (request_of_no_parts h.given hparts)] at hsent
    cases hsent
  | some segments =>
    refine ⟨segments, rfl, ?_⟩
    by_cases hsend : FetchRequest.CanSend (client.base.join segments)
    · rw [exchange_of_ok (h.request_eq_ok hsegments hsend)] at hsent
      cases List.mem_singleton.mp hsent
      exact FetchRequest.asked_with_path client.base _
    · obtain ⟨error, herror⟩ := h.request_eq_error hsegments hsend
      rw [exchange_of_error herror] at hsent
      cases hsent

theorem IsReady.parts_eq_of_sentText_eq {place' : String} (hready : IsReady client key)
    (hpath : HasSegments client.base.path front) (h : IsClear key place)
    (h' : IsClear key place') {network : Network} {request request' : FetchRequest}
    (hsent : request ∈ (client.exchange network place).sent)
    (hsent' : request' ∈ (client.exchange network place').sent)
    (hsame : request.url.text = request'.url.text) : placeParts place = placeParts place' := by
  obtain ⟨segments, hsegments, hurl⟩ := hready.exists_of_mem_sent hsent
  obtain ⟨segments', hsegments', hurl'⟩ := hready.exists_of_mem_sent hsent'
  rw [hurl, hurl'] at hsame
  exact parts_eq_of_text_eq hpath h h' hsegments hsegments' hsame

theorem IsReady.of_ofConfig (hclient : ofConfig config = .ok client)
    (hkey : config.apiKey = some key) (hgiven : key ≠ "")
    (hscheme : client.base.scheme = "http" ∨ client.base.scheme = "https") :
    IsReady client key := by
  cases hbase : Url.ofText config.baseUrl with
  | error fault =>
    rw [ofConfig, hbase] at hclient
    cases hclient
  | ok base =>
    rw [ofConfig, hbase] at hclient
    cases hclient
    refine ⟨?_, hscheme, isEncoded_of_ofText hbase⟩
    rw [hkey, Option.filter_some, if_pos (by simpa using hgiven)]

/-- A place without parts is refused, and nothing is sent. Any other has a URL, with all but the
path from the base; the URL is asked for by one request, unless it is too long or no request can go
to its host, and then nothing is sent. If the place is clear, the segments behind those of the base
are read as the key, the parts and the words between them, so that the URL determines the parts.
The parts determine the URL, and a trailing slash of the base makes no difference. -/
theorem parts_sent_as_segments {config : ObservationConfig} {client : ObservationClient}
    {key : String} {front : List String} (hclient : ofConfig config = .ok client)
    (hscheme : client.base.scheme = "http" ∨ client.base.scheme = "https")
    (hpath : HasSegments client.base.path front) (hkey : config.apiKey = some key)
    (hgiven : key ≠ "") :
    (∀ place, placeParts place = [] → ∀ network, client.exchange network place =
      .unsent (.rejected ("invalid location '" ++ place ++ "'"))) ∧
    (∀ place parts city, placeParts place = parts ++ [city] →
      ∃ url, client.url key place = .ok url ∧ { url with path := client.base.path } = client.base ∧
        (IsClear key place → ∃ behind, url.path = front ++ behind ∧
          behind.map percentDecodeText? =
            (["api", key, "conditions", "q"] ++ parts ++ [city ++ ".json"]).map some) ∧
        (FetchRequest.CanSend url → ∃ request, request.url = FetchRequest.asked url ∧
          ∀ network, client.exchange network place =
            ⟨(network request).read readReply, [request]⟩) ∧
        (¬ FetchRequest.CanSend url → ∀ network, (client.exchange network place).sent = [])) ∧
    (∀ place place', IsClear key place → IsClear key place' →
      ((client.url key place).toOption.map Url.text =
          (client.url key place').toOption.map Url.text →
        placeParts place = placeParts place') ∧
      ∀ network, ∀ request ∈ (client.exchange network place).sent,
        ∀ request' ∈ (client.exchange network place').sent,
          request.url.text = request'.url.text → placeParts place = placeParts place') ∧
    (∀ place place', placeParts place = placeParts place' →
      (client.url key place).toOption = (client.url key place').toOption ∧
      ∀ network, (client.exchange network place).sent = (client.exchange network place').sent) ∧
    ∀ config' client' path, ofConfig config' = .ok client' → config'.apiKey = some key →
      client'.base = { client.base with path := path } → HasSegments path front →
      ∀ place, client'.url key place = client.url key place ∧
        ∀ network, client'.exchange network place = client.exchange network place := by
  have hready := IsReady.of_ofConfig hclient hkey hgiven hscheme
  refine ⟨fun place hparts network ↦ ?_, fun place parts city hparts ↦ ?_,
    fun place place' h h' ↦ ⟨parts_eq_of_urlText_eq hpath h h', ?_⟩,
    fun place place' hparts ↦ ⟨url_congr hparts, sent_congr hready.given hparts⟩, ?_⟩
  · exact exchange_of_error (request_of_no_parts hready.given hparts)
  · have hsegments : segments? key place =
        some (["api", key, "conditions", "q"] ++ parts ++ [city ++ ".json"]) :=
      segments?_eq_some_iff.mpr ⟨parts, city, hparts, rfl⟩
    refine ⟨_, url_of_segments? hsegments, rfl, fun hclear ↦ ?_, fun hsend ↦ ?_, fun hsend ↦ ?_⟩
    · refine ⟨_, hclear.extend_eq hsegments _ hpath, ?_⟩
      exact map_percentDecodeText?_encodeSegment _
        fun text h ↦ (hclear.isOneLine_and_isSegment hsegments text h).1
    · exact ⟨_, rfl, fun network ↦ exchange_of_ok (hready.request_eq_ok hsegments hsend)⟩
    · intro network
      obtain ⟨error, herror⟩ := hready.request_eq_error hsegments hsend
      rw [exchange_of_error herror]
      rfl
  · intro network request hsent request' hsent'
    exact hready.parts_eq_of_sentText_eq hpath h h' hsent hsent'
  · intro config' client' path hclient' hkey' hbase hpath' place
    have hscheme' : client'.base.scheme = "http" ∨ client'.base.scheme = "https" := by rwa [hbase]
    have hready' := IsReady.of_ofConfig hclient' hkey' hgiven hscheme'
    have hurl : client'.url key place = client.url key place :=
      url_congr_stem hbase (hpath'.stem_eq.trans hpath.stem_eq.symm) place
    refine ⟨hurl, fun network ↦ ?_⟩
    rw [exchange, exchange, request, request, hready'.given, hready.given]
    simp only [hurl]

/-- A configuration with a key that is not a segment by itself. -/
def nestedConfig : ObservationConfig where
  baseUrl := "https://user@weather.example:8443/v1/?lang=en#now"
  apiKey := some "k/y"

/-- The client of the configuration. -/
def nestedClient : ObservationClient where
  base := nestedBase
  key := some "k/y"

/-- Marks of a URL in a place are parts of its segments, and a city of dots is a segment, with or
without the trailing slash of the base. -/
theorem dots_sent_as_segments :
    ofConfig nestedConfig = .ok nestedClient ∧ nestedClient.base.scheme = "https" ∧
      HasSegments nestedClient.base.path ["v1"] ∧ nestedConfig.apiKey = some "k/y" ∧ "k/y" ≠ "" ∧
      IsClear "k/y" "/Côte d'Ivoire/ a?b#c //100%/.." ∧
      (∃ url request, nestedClient.url "k/y" "/Côte d'Ivoire/ a?b#c //100%/.." = .ok url ∧
        FetchRequest.CanSend url ∧
        (∀ network, (nestedClient.exchange network "/Côte d'Ivoire/ a?b#c //100%/..").sent =
          [request]) ∧
        request.url = FetchRequest.asked url ∧
        ∃ behind, url.path = ["v1"] ++ behind ∧ behind.map percentDecodeText? =
          ["api", "k/y", "conditions", "q", "Côte d'Ivoire", "a?b#c", "100%", "...json"].map some) ∧
      ∃ client', ofConfig { nestedConfig with
          baseUrl := "https://user@weather.example:8443/v1?lang=en#now" } = .ok client' ∧
        ∀ place network, client'.exchange network place = nestedClient.exchange network place := by
  have hbase : Url.ofText nestedConfig.baseUrl = .ok nestedBase := by
    decide +kernel
  have hbase' : Url.ofText "https://user@weather.example:8443/v1?lang=en#now" =
      .ok { nestedBase with path := ["v1"] } := by
    decide +kernel
  have hclient : ofConfig nestedConfig = .ok nestedClient := by
    rw [ofConfig, hbase]
    rfl
  have hclient' : ofConfig { nestedConfig with
      baseUrl := "https://user@weather.example:8443/v1?lang=en#now" } =
        .ok ⟨{ nestedBase with path := ["v1"] }, some "k/y"⟩ := by
    rw [ofConfig, hbase']
    rfl
  have hpath : HasSegments nestedClient.base.path ["v1"] := ⟨by decide, .inr rfl⟩
  have hgiven : "k/y" ≠ "" := by decide
  have hparts : placeParts "/Côte d'Ivoire/ a?b#c //100%/.." =
      ["Côte d'Ivoire", "a?b#c", "100%"] ++ [".."] := by
    decide +kernel
  have hclear : IsClear "k/y" "/Côte d'Ivoire/ a?b#c //100%/.." :=
    ⟨by decide, by decide, by rw [hparts]; decide, by rw [hparts]; decide⟩
  obtain ⟨-, hsent, -, -, hslash⟩ :=
    parts_sent_as_segments hclient (.inr rfl) hpath rfl hgiven
  obtain ⟨url, hurl, -, hread, hasked, -⟩ := hsent _ _ _ hparts
  have hsend : FetchRequest.CanSend url := by
    have hcan : (nestedClient.url "k/y" "/Côte d'Ivoire/ a?b#c //100%/..").toOption.all
        fun url ↦ decide (FetchRequest.CanSend url) := by
      decide +kernel
    rw [hurl] at hcan
    exact of_decide_eq_true hcan
  obtain ⟨request, hrequest, hexchange⟩ := hasked hsend
  refine ⟨hclient, rfl, hpath, rfl, hgiven, hclear, ⟨url, request, hurl, hsend,
    fun network ↦ by rw [hexchange], hrequest, hread hclear⟩, _, hclient', fun place ↦ ?_⟩
  exact (hslash _ _ _ hclient' rfl rfl ⟨by decide, .inl rfl⟩ place).2

end ObservationClient

end ContextProvider
