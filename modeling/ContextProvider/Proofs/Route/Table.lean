import ContextProvider.Proofs.Text.Percent
import ContextProvider.Proofs.Text.Separation
import ContextProvider.Route.RequestTarget
import ContextProvider.Route.Table

/-!
# Finding routes

A path matches only routes with its own number of segments. Presets, queries without selector and
queries with selector have three different numbers, and no other route has one of them, so that
none of the three can take a path away from another, whatever its parameters are.
-/

namespace ContextProvider

open Text

/-- The target answers queries, with parameters or as a preset. -/
def Target.answersQueries : Target → Bool
  | .health | .discovery => false
  | .query _ | .preset _ => true

namespace Route

/-! ## Matching -/

theorem length_eq_of_matchSegments {segments : List RouteSegment} {path : List String}
    {parameters : Parameters} (h : matchSegments segments path = some parameters) :
    segments.length = path.length := by
  fun_induction matchSegments segments path generalizing parameters with
  | case1 => rfl
  | case2 segments word path ih => simp [ih h]
  | case3 => cases h
  | case4 name segments segment path ih =>
    obtain ⟨rest, hrest, -⟩ := Option.map_eq_some_iff.mp h
    simp [ih hrest]
  | case5 => cases h

/-- Only routes with as many segments as the path can match. -/
theorem findAmong_filter (routes : List Route) (path : List String) :
    findAmong routes path =
      findAmong (routes.filter fun route ↦ route.segments.length = path.length) path := by
  induction routes with
  | nil => rfl
  | cons route routes ih =>
    simp only [findAmong] at ih ⊢
    by_cases hlength : route.segments.length = path.length
    · rw [List.filter_cons_of_pos (by simpa using hlength), List.findSome?_cons,
        List.findSome?_cons, ih]
    · rw [List.filter_cons_of_neg (by simpa using hlength), List.findSome?_cons, ih]
      cases hmatch : matchSegments route.segments path with
      | none => rfl
      | some parameters => exact absurd (length_eq_of_matchSegments hmatch) hlength

/-- Fixed segments match themselves alone. -/
theorem matchSegments_fixed (words path : List String) :
    matchSegments (words.map .fixed) path = if words = path then some [] else none := by
  induction words generalizing path with
  | nil => cases path <;> simp [matchSegments]
  | cons word words ih =>
    cases path with
    | nil => rfl
    | cons segment path =>
      by_cases hword : word = segment
      · simp [matchSegments, ih, hword]
      · simp [matchSegments, hword]

theorem matchSegments_parameters {names raws : List String} (h : names.length = raws.length)
    (last : String) :
    matchSegments (names.map .parameter ++ [.fixed last]) (raws ++ [last]) =
      some (names.zip raws) := by
  induction names generalizing raws with
  | nil =>
    rw [List.eq_nil_of_length_eq_zero h.symm]
    simp [matchSegments]
  | cons name names ih =>
    cases raws with
    | nil => cases h
    | cons raw raws => simp [matchSegments, ih (Nat.succ.inj h)]

/-- A query path with the right number of parameters matches the route of its kind. -/
theorem matchSegments_query (kind : BackendKind) {names raws : List String} (word : String)
    (h : names.length = raws.length) :
    matchSegments (query kind names).segments
        ("proxy" :: "v1" :: word :: (raws ++ [querySegment])) =
      if kind.word = word then some (names.zip raws) else none := by
  simp [query, matchSegments, matchSegments_parameters h]

theorem query_target (kind : BackendKind) (names : List String) :
    (query kind names).target = .query kind := rfl

/-! ## Paths -/

theorem splitPath_joined {segments : List String} (hne : segments ≠ [])
    (h : ∀ segment ∈ segments, '/' ∉ segment.toList) :
    splitPath (joined "/" ("" :: segments)) = some segments := by
  have hpieces : pieces '/' (joined "/" ("" :: segments)) = "" :: segments :=
    pieces_joined (List.cons_ne_nil _ _) (by simpa using h)
  obtain ⟨first, rest, rfl⟩ := List.exists_cons_of_ne_nil hne
  simp only [splitPath, hpieces]

/-- A segment that neither ends nor holds a separator of a path. -/
def IsPlain (segment : String) : Prop :=
  ∀ c ∈ ['/', '?', '#'], c ∉ segment.toList

instance (segment : String) : Decidable (IsPlain segment) :=
  List.decidableBAll _ _

theorem isPlain_percentEncodeText (s : String) : IsPlain (percentEncodeText s) :=
  fun _ hc ↦ not_mem_percentEncodeText hc s

/-- A target without query and fragment is its own path. -/
theorem path_joined {segments : List String} (hne : segments ≠ [])
    (h : ∀ segment ∈ segments, IsPlain segment) :
    RequestTarget.path (joined "/" ("" :: segments)) = joined "/" ("" :: segments) := by
  have hnot : ∀ c ∈ ['?', '#'], c ∉ (joined "/" ("" :: segments)).toList := by
    intro c hc
    apply not_mem_joined
    · simp only [List.mem_cons, List.not_mem_nil, or_false] at hc
      rcases hc with rfl | rfl <;> decide
    · rw [List.forall_mem_cons]
      exact ⟨List.not_mem_nil, fun s hs ↦ h s hs c (List.mem_cons_of_mem _ hc)⟩
  obtain ⟨first, rest, rfl⟩ := List.exists_cons_of_ne_nil hne
  have hslash : ∃ more, (joined "/" ("" :: first :: rest)).toList = '/' :: more := by
    simp [joined, String.intercalate_cons_cons]
  obtain ⟨more, hmore⟩ := hslash
  have hpath : RequestTarget.pathChars ('/' :: more) = '/' :: more := by
    rw [RequestTarget.pathChars, RequestTarget.beforeQuery, List.takeWhile_eq_self_iff]
    intro c hc
    have hend : c ≠ '?' ∧ c ≠ '#' := by
      constructor <;> rintro rfl <;> exact hnot _ (by decide) (hmore ▸ hc)
    simp [Url.isPathEnd, hend]
  rw [RequestTarget.path, hmore, hpath, ← hmore, String.ofList_toList]

theorem fixed_joined {segments : List String} (hne : segments ≠ [])
    (h : ∀ segment ∈ segments, IsPlain segment) (target : Target) :
    fixed (joined "/" ("" :: segments)) target = ⟨segments.map .fixed, target⟩ := by
  have hsplit := splitPath_joined hne fun segment hsegment ↦ h segment hsegment '/' (by decide)
  rw [fixed, hsplit, Option.getD_some]

theorem find?_joined {segments : List String} (hne : segments ≠ [])
    (h : ∀ segment ∈ segments, IsPlain segment) :
    find? (RequestTarget.path (joined "/" ("" :: segments))) = findAmong all segments := by
  have hsplit := splitPath_joined hne fun segment hsegment ↦ h segment hsegment '/' (by decide)
  rw [path_joined hne h, find?, hsplit, Option.bind_some]

end Route

/-! ## Presets and queries -/

theorem BackendKind.isPlain_word (kind : BackendKind) : Route.IsPlain kind.word := by
  cases kind <;> decide

/-- The segments of the path of a preset. -/
def Preset.segments (preset : Preset) : List String :=
  ["proxy", "v1", preset.backend.word, preset.name, querySegment]

theorem Preset.url_eq_joined (preset : Preset) :
    preset.url = joined "/" ("" :: preset.segments) := by
  have hprefix : routePrefix = "" ++ "/" ++ "proxy" ++ "/" ++ "v1" := by rfl
  simp only [url, path, segments, hprefix, joined, String.intercalate_cons_cons,
    String.intercalate_singleton, String.append_assoc]

theorem Preset.isPlain_segments : ∀ preset ∈ Preset.all,
    ∀ segment ∈ preset.segments, Route.IsPlain segment := by
  have hname : ∀ preset ∈ Preset.all, Route.IsPlain preset.name := by decide
  intro preset hpreset
  simp only [segments, List.forall_mem_cons]
  exact ⟨by decide, by decide, preset.backend.isPlain_word, hname preset hpreset,
    by decide, List.forall_mem_nil _⟩

/-- The segments of the path of a query with its parameters as they stand. -/
def querySegments (kind : BackendKind) (raws : List String) : List String :=
  "proxy" :: "v1" :: kind.word :: (raws ++ [querySegment])

/-- The path of a query with its parameters as they stand. -/
def rawQueryPath (kind : BackendKind) (raws : List String) : String :=
  joined "/" ("" :: querySegments kind raws)

theorem queryPath_eq_rawQueryPath (kind : BackendKind) (parameters : List String) :
    queryPath kind parameters = rawQueryPath kind (parameters.map percentEncodeText) := by
  rfl

theorem isPlain_querySegments (kind : BackendKind) {raws : List String}
    (h : ∀ raw ∈ raws, Route.IsPlain raw) :
    ∀ segment ∈ querySegments kind raws, Route.IsPlain segment := by
  simp only [querySegments, List.forall_mem_cons, List.forall_mem_append]
  exact ⟨by decide, by decide, kind.isPlain_word, h, by decide, List.forall_mem_nil _⟩

namespace Route

/-- The kinds of the queries that have a route, each with the parameters of the route. -/
def queries : List (BackendKind × List String) :=
  [(.random, plainParameters), (.static, plainParameters), (.static, selectorParameters),
    (.twitter, selectorParameters), (.weather, selectorParameters)]

/-- The routes of presets. -/
def presets : List Route :=
  Preset.all.map fun preset ↦ ⟨preset.segments.map .fixed, .preset preset⟩

/-- Every route with its segments. -/
theorem all_eq : all =
    [⟨[.fixed "health"], .health⟩, ⟨[.fixed "proxy", .fixed "v1"], .discovery⟩,
      ⟨[.fixed "proxy", .fixed "v1", .fixed ""], .discovery⟩] ++
    queries.map (fun (kind, names) ↦ query kind names) ++ presets := by
  have hhealth : fixed "/health" .health = ⟨[.fixed "health"], .health⟩ :=
    fixed_joined (List.cons_ne_nil _ _ : ["health"] ≠ []) (by decide) _
  have hdiscovery : fixed routePrefix .discovery =
      ⟨[.fixed "proxy", .fixed "v1"], .discovery⟩ :=
    fixed_joined (List.cons_ne_nil _ _ : ["proxy", "v1"] ≠ []) (by decide) _
  have hslash : fixed (routePrefix ++ "/") .discovery =
      ⟨[.fixed "proxy", .fixed "v1", .fixed ""], .discovery⟩ :=
    fixed_joined (List.cons_ne_nil _ _ : ["proxy", "v1", ""] ≠ []) (by decide) _
  have hpresets : presets = Preset.all.map fun preset ↦ fixed preset.url (.preset preset) := by
    apply List.map_congr_left
    intro preset hpreset
    rw [preset.url_eq_joined]
    exact (fixed_joined (List.cons_ne_nil _ _) (preset.isPlain_segments hpreset) _).symm
  rw [all, hhealth, hdiscovery, hslash, hpresets]
  rfl

/-- The routes that answer queries are those with five segments or more. -/
theorem answersQueries_iff :
    ∀ route ∈ all, route.target.answersQueries = decide (5 ≤ route.segments.length) := by
  rw [all_eq]
  decide

theorem filter_all_preset (preset : Preset) :
    (all.filter fun route ↦ route.segments.length = preset.segments.length) = presets := by
  rw [all_eq]
  rfl

theorem filter_all_plain :
    (all.filter fun route ↦ route.segments.length = plainParameters.length + 4) =
      [query .random plainParameters, query .static plainParameters] := by
  rw [all_eq]
  rfl

theorem filter_all_selector :
    (all.filter fun route ↦ route.segments.length = selectorParameters.length + 4) =
      [query .static selectorParameters, query .twitter selectorParameters,
        query .weather selectorParameters] := by
  rw [all_eq]
  rfl

/-- The path of a preset leads to it. -/
theorem find?_url : ∀ preset ∈ Preset.all,
    find? (RequestTarget.path preset.url) = some (.preset preset, []) := by
  have hdistinct : ∀ preset ∈ Preset.all,
      Preset.all.find? (fun other ↦ other.segments = preset.segments) = some preset := by
    decide +kernel
  intro preset hpreset
  have hne : preset.segments ≠ [] := List.cons_ne_nil _ _
  rw [preset.url_eq_joined, find?_joined hne (preset.isPlain_segments hpreset),
    findAmong_filter, filter_all_preset, presets, findAmong, List.findSome?_map]
  -- The look-up among the routes of presets is a look-up among the presets by their segments.
  have hmatch : ∀ other : Preset,
      (matchSegments (other.segments.map .fixed) preset.segments).map
          (fun parameters ↦ (Target.preset other, parameters)) =
        (Option.guard (fun other ↦ decide (other.segments = preset.segments)) other).map
          fun found ↦ (Target.preset found, []) := by
    intro other
    by_cases hsame : other.segments = preset.segments <;>
      simp [matchSegments_fixed, Option.map_guard, hsame]
  calc Preset.all.findSome? (fun other ↦
        (matchSegments (other.segments.map .fixed) preset.segments).map
          fun parameters ↦ (Target.preset other, parameters))
    _ = (Preset.all.find? fun other ↦ other.segments = preset.segments).map
        fun found ↦ (Target.preset found, []) := by
      simp only [hmatch, List.find?_eq_findSome?_guard, List.map_findSome?, Function.comp_def]
    _ = some (.preset preset, []) := by rw [hdistinct preset hpreset, Option.map_some]

/-- A path that matches a route for queries leads to such a route. -/
theorem exists_find?_of_matchSegments {route : Route} (hroute : route ∈ all)
    (hqueries : route.target.answersQueries) {path : String} {segments : List String}
    (hsplit : splitPath path = some segments) {parameters : Parameters}
    (hmatch : matchSegments route.segments segments = some parameters) :
    ∃ target values, find? path = some (target, values) ∧ target.answersQueries := by
  have hfound : (findAmong all segments).isSome := by
    rw [findAmong, List.findSome?_isSome_iff]
    exact ⟨route, hroute, by simp [hmatch]⟩
  obtain ⟨⟨target, values⟩, hfound⟩ := Option.isSome_iff_exists.mp hfound
  obtain ⟨found, hmem, hvalues⟩ := List.exists_of_findSome?_eq_some hfound
  obtain ⟨matched, hmatched, heq⟩ := Option.map_eq_some_iff.mp hvalues
  cases heq
  refine ⟨found.target, values, by rw [find?, hsplit, Option.bind_some, hfound], ?_⟩
  -- The route that is found may be another one, but it has as many segments.
  have hlength : found.segments.length = route.segments.length := by
    rw [length_eq_of_matchSegments hmatched, length_eq_of_matchSegments hmatch]
  rw [answersQueries_iff found hmem, hlength, ← answersQueries_iff route hroute, hqueries]

/-- The path of a query leads to its kind, with the parameters as they stand. -/
theorem find?_rawQueryPath {kind : BackendKind} {names raws : List String}
    (hquery : (kind, names) ∈ queries) (hlength : names.length = raws.length)
    (hplain : ∀ raw ∈ raws, IsPlain raw) :
    find? (RequestTarget.path (rawQueryPath kind raws)) =
      some (.query kind, names.zip raws) := by
  have hne : querySegments kind raws ≠ [] := List.cons_ne_nil _ _
  have hsegments : (querySegments kind raws).length = names.length + 4 := by
    simp [querySegments, hlength]
  rw [rawQueryPath, find?_joined hne (isPlain_querySegments kind hplain), findAmong_filter,
    hsegments]
  have hmatch : ∀ other, matchSegments (query other names).segments (querySegments kind raws) =
      if other.word = kind.word then some (names.zip raws) else none :=
    fun other ↦ matchSegments_query other kind.word hlength
  simp only [queries, List.mem_cons, Prod.mk.injEq, List.not_mem_nil, or_false] at hquery
  -- Of the routes with as many segments, only the one of the same kind matches.
  rcases hquery with ⟨rfl, rfl⟩ | ⟨rfl, rfl⟩ | ⟨rfl, rfl⟩ | ⟨rfl, rfl⟩ | ⟨rfl, rfl⟩
  all_goals simp [filter_all_plain, filter_all_selector, findAmong, hmatch, query_target,
    BackendKind.word]

end Route

end ContextProvider
