import ContextProvider.Client.Observation
import ContextProvider.Proofs.Url.Path

/-!
# Places and requests

A place decides the path of a request behind the word `conditions` and nothing else of its URL.
-/

namespace ContextProvider.ObservationClient

open Text Url

/-- A place whose first part that counts reads as two dots, though it is written differently; it
replaces the segment behind `conditions`. -/
def Strays (place : String) : Prop :=
  LeadsAbove (placeParts place).dropLast

instance (place : String) : Decidable (Strays place) :=
  inferInstanceAs (Decidable (LeadsAbove _))

/-- The path of a request behind the path of its base. -/
theorem exists_extend_eq (special : Bool) (path : List String) {key : String}
    (hkey : key.toList.all Char.isAlphanum) (parts : List String) (city : String) :
    ∃ root rest, extend special path (["api", key, "conditions", "q"] ++ parts ++
        [city ++ ".json"]) =
      stem path ++ ["api", key, "conditions", root] ++ rest ++
        [encodeSegment special city ++ ".json"] ∧
      root = if LeadsAbove parts then "" else "q" := by
  have hwords : ∀ word ∈ ["api", key, "conditions", "q"], word.toList.all Char.isAlphanum := by
    simp only [List.forall_mem_cons]
    exact ⟨by decide, hkey, by decide, by decide, List.forall_mem_nil _⟩
  have hfront : stem path ++ ["api", key, "conditions"] ≠ [] := by simp
  obtain ⟨root, rest, hparts, hroot⟩ := exists_foldl_push_eq special hfront parts "q" []
  have hbehind : (stem path ++ ["api", key, "conditions"]) ++ root :: rest ≠ [""] := by
    simp [List.append_eq_singleton_iff]
  refine ⟨root, rest, ?_, by simpa using hroot⟩
  calc extend special path (["api", key, "conditions", "q"] ++ parts ++ [city ++ ".json"])
    _ = (parts ++ [city ++ ".json"]).foldl (push special)
        (stem path ++ ["api", key, "conditions", "q"]) := by
      rw [List.append_assoc]
      exact extend_words special path (by decide) hwords _
    _ = push special ((stem path ++ ["api", key, "conditions"]) ++ root :: rest)
        (city ++ ".json") := by
      rw [List.foldl_append, ← hparts]
      simp
    _ = _ := by
      rw [push_of_isSegment special _ (isSegment_append_json city), if_neg hbehind,
        encodeSegment_append_json]
      simp

/-- The URL of a request is the base with another path: the segments of the base, then `api`, the
key, `conditions` and `q`, then at least one more, the last of which ends in `.json`. Only a place
that strays leaves the segment `q` empty. -/
theorem url_below_conditions (client : ObservationClient) {key place : String} {url : Url}
    (hkey : key.toList.all Char.isAlphanum) (hurl : client.url key place = .ok url) :
    { url with path := client.base.path } = client.base ∧
      ∃ root rest city,
        url.path = stem client.base.path ++ ["api", key, "conditions", root] ++ rest ++
          [city ++ ".json"] ∧
        (root = "q" ∧ ¬ Strays place ∨ root = "" ∧ Strays place) := by
  obtain ⟨segments, hsegments⟩ : ∃ segments, segments? key place = some segments := by
    cases hsegments : segments? key place with
    | none => simp [ObservationClient.url, hsegments] at hurl
    | some segments => exact ⟨segments, rfl⟩
  have hjoin : url = client.base.join segments := by
    simpa [ObservationClient.url, hsegments, eq_comm] using hurl
  obtain ⟨city, -, rfl⟩ := Option.map_eq_some_iff.mp hsegments
  obtain ⟨root, rest, hpath, hroot⟩ := exists_extend_eq client.base.isSpecial client.base.path hkey
    (placeParts place).dropLast city
  subst hjoin
  refine ⟨rfl, root, rest, _, hpath, ?_⟩
  by_cases hstrays : Strays place
  · exact .inr ⟨by rw [hroot]; exact if_pos hstrays, hstrays⟩
  · exact .inl ⟨by rw [hroot]; exact if_neg hstrays, hstrays⟩

/-- The base of the client for a host with a path, a query and a fragment. -/
def nestedBase : Url where
  scheme := "https"
  username := "user"
  password := none
  host := some (.domain "weather.example")
  portNumber := some 8443
  path := ["v1", ""]
  query := some "lang=en"
  fragment := some "now"

/-- A place with dots that leads back to the segment of its country only. -/
theorem new_york_below_conditions :
    ∃ url, "k3y".toList.all Char.isAlphanum ∧
      (ObservationClient.mk nestedBase (some "k3y")).url "k3y" " .. /USA/.\t./New York" = .ok url ∧
      url.text =
        "https://user@weather.example:8443/v1/api/k3y/conditions/q//New%20York.json?lang=en#now" ∧
      { url with path := nestedBase.path } = nestedBase ∧
      ∃ root rest city,
        url.path = stem nestedBase.path ++ ["api", "k3y", "conditions", root] ++ rest ++
          [city ++ ".json"] ∧
        (root = "q" ∧ ¬ Strays " .. /USA/.\t./New York" ∨
          root = "" ∧ Strays " .. /USA/.\t./New York") := by
  have hkey : "k3y".toList.all Char.isAlphanum := by decide
  have hurl : (ObservationClient.mk nestedBase (some "k3y")).url "k3y" " .. /USA/.\t./New York" =
      .ok { nestedBase with
        path := ["v1", "api", "k3y", "conditions", "q", "", "New%20York.json"] } := by
    decide +kernel
  exact ⟨_, hkey, hurl, by decide +kernel, url_below_conditions _ hkey hurl⟩

/-- The client for a host without more. -/
def plainClient : ObservationClient where
  base := ⟨"http", "", none, some (.domain "api.example.com"), none, [""], none, none⟩
  key := some "k3y"

/-- Two dots with a tab between them take the place of the segment `q`. -/
theorem berlin_strays : ∃ url,
    ofConfig { baseUrl := "http://api.example.com", apiKey := some "k3y" } = .ok plainClient ∧
      plainClient.url "k3y" ".\t./Berlin" = .ok url ∧
      url.text = "http://api.example.com/api/k3y/conditions//Berlin.json" ∧
      ¬ ∃ rest city, url.path = ["api", "k3y", "conditions", "q"] ++ rest ++ [city ++ ".json"] := by
  have hbase : Url.ofText "http://api.example.com" = .ok plainClient.base := by
    decide +kernel
  have hurl : plainClient.url "k3y" ".\t./Berlin" =
      .ok { plainClient.base with path := ["api", "k3y", "conditions", "", "Berlin.json"] } := by
    decide +kernel
  have hconfig : ofConfig { baseUrl := "http://api.example.com", apiKey := some "k3y" } =
      .ok plainClient := by
    rw [ofConfig, hbase]
    rfl
  have htext : Url.text { plainClient.base with
      path := ["api", "k3y", "conditions", "", "Berlin.json"] } =
        "http://api.example.com/api/k3y/conditions//Berlin.json" := by
    decide +kernel
  refine ⟨_, hconfig, hurl, htext, ?_⟩
  rintro ⟨rest, city, hpath⟩
  have hroot := congrArg (·[3]?) hpath
  simp at hroot

end ContextProvider.ObservationClient
