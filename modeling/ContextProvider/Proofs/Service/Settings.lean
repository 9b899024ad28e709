import ContextProvider.Proofs.Service.Sections
import Mathlib

/-!
# Where settings come from

It makes no difference to a setting whether its section is missing, empty or without it. So a
document says the same with empty sections or unknown keys added to it.
-/

namespace ContextProvider

namespace Config

/-- The sections that are tables, each with its settings. -/
def sections : List (String × List String) :=
  [("server", ["port"]), ("upstream", ["timeout_ms"]),
    ("twitter", ["base_url", "bearer_token", "count"]), ("weather", ["base_url", "api_key"])]

section

variable (members : List (String × Toml))

/-- The sections that are present are tables. -/
def TableSections : Prop :=
  ∀ name ∈ sections.map Prod.fst, ∀ value, members.lookup name = some value →
    ∃ settings, value = .table settings

/-- What a section holds; nothing if there is none. -/
def settingsOf (name : String) : List (String × Toml) :=
  match members.lookup name with
  | some (.table settings) => settings
  | _ => []

/-- What is given for a setting in a section. -/
def given? (name key : String) : Option Toml :=
  (settingsOf members name).lookup key

/-- Every setting has the value of its argument, the one the document writes, or the usual one. -/
structure Settles (overrides : Overrides) (config : Config) : Prop where
  portNumber : Settled overrides.portNumber (given? members "server" "port")
    (Toml.WritesNat 0x10000) 3000 config.portNumber
  timeout : Settled none (given? members "upstream" "timeout_ms")
    (Toml.WritesNat 0x10000000000000000) 10000 config.timeout
  searchUrl : Settled none (given? members "twitter" "base_url")
    Toml.WritesText "https://api.twitter.com" config.search.baseUrl
  bearerToken : Settled (overrides.bearerToken.map some) (given? members "twitter" "bearer_token")
    Toml.WritesSomeText none config.search.bearerToken
  count : Settled none (given? members "twitter" "count")
    (Toml.WritesNat 0x100000000) 15 config.search.count
  observationUrl : Settled none (given? members "weather" "base_url")
    Toml.WritesText "http://api.wunderground.com" config.observation.baseUrl
  apiKey : Settled (overrides.apiKey.map some) (given? members "weather" "api_key")
    Toml.WritesSomeText none config.observation.apiKey
  fixtures : Settled none (members.lookup "fixtures") Toml.WritesFixtures [] config.fixtures

end

/-- The settings with an argument have its value; the others are as before. -/
structure Replaces (overrides : Overrides) (before after : Config) : Prop where
  portNumber : after.portNumber = overrides.portNumber.getD before.portNumber
  bearerToken : after.search.bearerToken = overrides.bearerToken.or before.search.bearerToken
  apiKey : after.observation.apiKey = overrides.apiKey.or before.observation.apiKey
  timeout : after.timeout = before.timeout
  searchUrl : after.search.baseUrl = before.search.baseUrl
  count : after.search.count = before.search.count
  observationUrl : after.observation.baseUrl = before.observation.baseUrl
  fixtures : after.fixtures = before.fixtures

/-- Something is added to a document that says nothing. -/
inductive Addition : List (String × Toml) → List (String × Toml) → Prop
  | emptySection {name : String} {before after : List (String × Toml)}
      (known : name ∈ sections.map Prod.fst) (missing : (before ++ after).lookup name = none) :
      Addition (before ++ after) (before ++ (name, .table []) :: after)
  | unknownKey {members extended : List (String × Toml)}
      (adds : Toml.Extends names members extended) : Addition members extended
  | unknownSetting {name : String} {keys : List String}
      {settings extended before after : List (String × Toml)}
      (known : (name, keys) ∈ sections) (adds : Toml.Extends keys settings extended) :
      Addition (before ++ (name, .table settings) :: after)
        (before ++ (name, .table extended) :: after)
  | unknownField {entry extended before after : List (String × Toml)} {front back : List Toml}
      (adds : Toml.Extends ["field", "selector", "value"] entry extended) :
      Addition (before ++ ("fixtures", .array (front ++ .table entry :: back)) :: after)
        (before ++ ("fixtures", .array (front ++ .table extended :: back)) :: after)

/-! ## Reading a document -/

variable {members extended : List (String × Toml)} {config : Config}

theorem ofToml?_table : ofToml? (.table members) = some config ↔
    (members.lookup "server").elim (some 3000) (setting? "port" 3000 0x10000) =
      some config.portNumber ∧
    (members.lookup "upstream").elim (some 10000)
      (setting? "timeout_ms" 10000 0x10000000000000000) = some config.timeout ∧
    (members.lookup "twitter").elim (some {}) SearchConfig.ofToml? = some config.search ∧
    (members.lookup "weather").elim (some {}) ObservationConfig.ofToml? =
      some config.observation ∧
    (members.lookup "fixtures").elim (some []) (Toml.list? FixtureDef.ofToml?) =
      some config.fixtures := by
  simp only [ofToml?, Toml.record?_table, Option.bind_eq_bind, Option.bind_some,
    Toml.Record.defaulted_eq_elim, Option.bind_eq_some_iff]
  simp (disch := decide) only [Toml.Record.get?_filter]
  constructor
  · rintro ⟨port, hport, timeout, htimeout, search, hsearch, observation, hobservation, fixtures,
      hfixtures, ⟨⟩⟩
    exact ⟨hport, htimeout, hsearch, hobservation, hfixtures⟩
  · rintro ⟨hport, htimeout, hsearch, hobservation, hfixtures⟩
    exact ⟨_, hport, _, htimeout, _, hsearch, _, hobservation, _, hfixtures, rfl⟩

/-- A missing section counts as an empty one. -/
theorem TableSections.elim_eq {α : Type*} (h : TableSections members) {name : String}
    (hname : name ∈ sections.map Prod.fst) {read : Toml → Option α} (usual : α)
    (hempty : read (.table []) = some usual) :
    (members.lookup name).elim (some usual) read = read (.table (settingsOf members name)) := by
  unfold settingsOf
  cases hvalue : members.lookup name with
  | none => exact hempty.symm
  | some value =>
    obtain ⟨settings, rfl⟩ := h name hname value hvalue
    rfl

theorem TableSections.ofToml?_eq_some_iff (h : TableSections members) :
    ofToml? (.table members) = some config ↔ Settles members {} config := by
  rw [ofToml?_table, h.elim_eq (by decide) 3000 rfl, h.elim_eq (by decide) 10000 rfl,
    h.elim_eq (by decide) ({} : SearchConfig) rfl,
    h.elim_eq (by decide) ({} : ObservationConfig) rfl, setting?_table, setting?_table,
    SearchConfig.ofToml?_table, ObservationConfig.ofToml?_table,
    elim_eq_some_iff_settled fun _ ↦ Toml.list?_fixtures_eq_some_iff]
  constructor
  · rintro ⟨hport, htimeout, ⟨hsearchUrl, htoken, hcount⟩, ⟨hobservationUrl, hkey⟩, hfixtures⟩
    exact ⟨hport, htimeout, hsearchUrl, htoken, hcount, hobservationUrl, hkey, hfixtures⟩
  · rintro ⟨hport, htimeout, hsearchUrl, htoken, hcount, hobservationUrl, hkey, hfixtures⟩
    exact ⟨hport, htimeout, ⟨hsearchUrl, htoken, hcount⟩, ⟨hobservationUrl, hkey⟩, hfixtures⟩

theorem ofDocument_eq_ok_iff {document : Toml} :
    ofDocument document = .ok config ↔ ofToml? document = some config ∧ config.timeout ≠ 0 := by
  unfold ofDocument
  cases ofToml? document with
  | none => simp
  | some read =>
    by_cases hzero : read.timeout = 0
    · simp only [hzero, if_true, reduceCtorEq, Option.some.injEq, false_iff, not_and, not_not]
      rintro rfl
      exact hzero
    · simp only [hzero, if_false, Except.ok.injEq, Option.some.injEq, iff_self_and]
      rintro rfl
      exact hzero

/-- A time limit that is given as zero is read as zero, whatever the other sections are. -/
theorem timeout_eq_zero (hzero : given? members "upstream" "timeout_ms" = some (.integer 0))
    (h : ofToml? (.table members) = some config) : config.timeout = 0 := by
  obtain ⟨-, htimeout, -⟩ := ofToml?_table.mp h
  unfold given? settingsOf at hzero
  split at hzero
  · rename_i settings hsettings
    rw [hsettings, Option.elim_some, setting?_table, hzero] at htimeout
    exact (Int.natCast_eq_zero.mp (Toml.integer.inj htimeout.1).symm)
  · cases hzero

/-! ## Additions -/

/-- A section, and what has become of it by an addition. -/
inductive Alike (keys : List String) : Option Toml → Option Toml → Prop
  | same (given : Option Toml) : Alike keys given given
  | empty : Alike keys none (some (.table []))
  | extended {settings extended : List (String × Toml)}
      (adds : Toml.Extends keys settings extended) :
      Alike keys (some (.table settings)) (some (.table extended))

theorem Alike.elim_eq {α : Type*} {keys : List String} {before after : Option Toml}
    (h : Alike keys before after) (read : Toml → Option α) {usual : α}
    (hempty : read (.table []) = some usual)
    (hextends : ∀ settings extended, Toml.Extends keys settings extended →
      read (.table extended) = read (.table settings)) :
    after.elim (some usual) read = before.elim (some usual) read := by
  cases h with
  | same => rfl
  | empty => exact hempty
  | extended adds => exact hextends _ _ adds

theorem Addition.alike (h : Addition members extended) {name : String} {keys : List String}
    (hname : (name, keys) ∈ sections) :
    Alike keys (members.lookup name) (extended.lookup name) := by
  have hsections : ∀ first ∈ sections, first.1 ∈ names ∧ first.1 ≠ "fixtures" ∧
      ∀ second ∈ sections, first.1 = second.1 → first.2 = second.2 := by decide
  obtain ⟨hdeclared, hfixtures, hunique⟩ := hsections _ hname
  cases h with
  | @emptySection other before after known missing =>
    rw [Toml.lookup_append_cons]
    split
    · subst name
      rw [missing]
      rw [List.lookup_append, Option.or_eq_none_iff] at missing
      rw [missing.1]
      exact .empty
    · rw [List.lookup_append]
      exact .same _
  | unknownKey adds =>
    rw [adds.lookup hdeclared]
    exact .same _
  | @unknownSetting other otherKeys settings extended before after known adds =>
    rw [Toml.lookup_append_cons, Toml.lookup_append_cons]
    cases before.lookup name with
    | some value => exact .same _
    | none =>
      split
      · cases hunique _ known ‹name = other›
        exact .extended adds
      · exact .same _
  | unknownField adds =>
    rw [Toml.lookup_append_cons, Toml.lookup_append_cons, if_neg hfixtures, if_neg hfixtures]
    exact .same _

theorem Addition.fixtures (h : Addition members extended) :
    (extended.lookup "fixtures").elim (some []) (Toml.list? FixtureDef.ofToml?) =
      (members.lookup "fixtures").elim (some []) (Toml.list? FixtureDef.ofToml?) := by
  have hsections : ∀ name ∈ sections.map Prod.fst, "fixtures" ≠ name := by decide
  cases h with
  | emptySection known =>
    rw [Toml.lookup_append_cons, if_neg (hsections _ known), List.lookup_append]
  | unknownKey adds => rw [adds.lookup (by decide)]
  | unknownSetting known =>
    have hne := hsections _ (List.mem_map_of_mem known)
    rw [Toml.lookup_append_cons, Toml.lookup_append_cons, if_neg hne, if_neg hne]
  | @unknownField entry extended before after front back adds =>
    rw [Toml.lookup_append_cons, Toml.lookup_append_cons, if_pos rfl, if_pos rfl]
    cases before.lookup "fixtures" with
    | some value => rfl
    | none =>
      have hentry : FixtureDef.ofToml? (.table extended) = FixtureDef.ofToml? (.table entry) := by
        rw [FixtureDef.ofToml?, FixtureDef.ofToml?, adds.record?]
      simp only [Option.none_or, Option.elim_some, Toml.list?, List.mapM_append, List.mapM_cons,
        hentry]

/-- What is added does not count, whether the document is read or not. -/
theorem Addition.ofToml? (h : Addition members extended) :
    ofToml? (.table extended) = ofToml? (.table members) := by
  refine Option.ext fun config ↦ ?_
  have hport := (h.alike (by decide : ("server", ["port"]) ∈ sections)).elim_eq
    (setting? "port" 3000 0x10000) rfl fun _ _ ↦ setting?_extends
  have htimeout := (h.alike (by decide : ("upstream", ["timeout_ms"]) ∈ sections)).elim_eq
    (setting? "timeout_ms" 10000 0x10000000000000000) rfl fun _ _ ↦ setting?_extends
  have hsearch := (h.alike (by decide : ("twitter", SearchConfig.names) ∈ sections)).elim_eq
    SearchConfig.ofToml? rfl fun _ _ ↦ SearchConfig.ofToml?_extends
  have hobservation :=
    (h.alike (by decide : ("weather", ObservationConfig.names) ∈ sections)).elim_eq
      ObservationConfig.ofToml? rfl fun _ _ ↦ ObservationConfig.ofToml?_extends
  rw [ofToml?_table, ofToml?_table, hport, htimeout, hsearch, hobservation, h.fixtures]

theorem ofDocument_additions (h : Relation.ReflTransGen Addition members extended) :
    ofDocument (.table extended) = ofDocument (.table members) := by
  induction h with
  | refl => rfl
  | tail _ last ih => rw [← ih, ofDocument, ofDocument, last.ofToml?]

end Config

/-! ## Arguments -/

section

variable {given : Option Toml}

theorem Settled.override {α : Type*} {Writes : Toml → α → Prop} {usual value : α}
    (h : Settled none given Writes usual value) (argument : Option α) :
    Settled argument given Writes usual (argument.getD value) := by
  cases argument with
  | none => exact h
  | some chosen => rfl

theorem Settled.override_some {α : Type*} {Writes : Toml → Option α → Prop}
    {usual value : Option α} (h : Settled none given Writes usual value) (argument : Option α) :
    Settled (argument.map some) given Writes usual (argument.or value) := by
  cases argument with
  | none => exact h
  | some chosen => rfl

end

namespace Config

variable {members : List (String × Toml)} {config : Config}

theorem override_replaces (overrides : Overrides) :
    Replaces overrides config (config.override overrides) :=
  ⟨rfl, rfl, rfl, rfl, rfl, rfl, rfl, rfl⟩

theorem Settles.override (h : Settles members {} config) (overrides : Overrides) :
    Settles members overrides (config.override overrides) where
  portNumber := h.portNumber.override overrides.portNumber
  timeout := h.timeout
  searchUrl := h.searchUrl
  bearerToken := h.bearerToken.override_some overrides.bearerToken
  count := h.count
  observationUrl := h.observationUrl
  apiKey := h.apiKey.override_some overrides.apiKey
  fixtures := h.fixtures

theorem ofText_eq_ofDocument {text : String} {document : Toml}
    (h : Toml.ofText? text = some document) : ofText text = ofDocument document := by
  rw [ofText, h]

/-- In a document whose sections are tables every setting is the argument, or else what the
document gives, or the usual one. Empty sections and unknown keys change nothing, a time limit of
zero is refused, and arguments replace nothing but their own settings. -/
theorem ofText_settles {text : String} {members : List (String × Toml)}
    (htext : Toml.ofText? text = some (.table members)) :
    (TableSections members → ∀ config,
      (ofText text = .ok config ↔ Settles members {} config ∧ config.timeout ≠ 0) ∧
      (ofText text = .ok config →
        ∀ overrides, Settles members overrides (config.override overrides))) ∧
    (∀ other extended, Toml.ofText? other = some (.table extended) →
      Relation.ReflTransGen Addition members extended → ofText other = ofText text) ∧
    (given? members "upstream" "timeout_ms" = some (.integer 0) →
      ∀ config, ofText text ≠ .ok config) ∧
    ∀ config overrides, Replaces overrides config (config.override overrides) := by
  rw [ofText_eq_ofDocument htext]
  refine ⟨fun htables config ↦ ?_, fun other extended hother hadditions ↦ ?_, ?_,
    fun config ↦ override_replaces⟩
  · have haccepted : ofDocument (.table members) = .ok config ↔
        Settles members {} config ∧ config.timeout ≠ 0 := by
      rw [ofDocument_eq_ok_iff, htables.ofToml?_eq_some_iff]
    exact ⟨haccepted, fun h ↦ (haccepted.mp h).1.override⟩
  · rw [ofText_eq_ofDocument hother, ofDocument_additions hadditions]
  · intro hzero config h
    obtain ⟨hread, htimeout⟩ := ofDocument_eq_ok_iff.mp h
    exact htimeout (timeout_eq_zero hzero hread)

/-- A document with two sections, one of them empty. -/
def partialText : String :=
  "[twitter]\nbearer_token = \"abc\"\n[upstream]\n"

/-- The members of that document. -/
def partialMembers : List (String × Toml) :=
  [("twitter", .table [("bearer_token", .string "abc")]), ("upstream", .table [])]

/-- The document with an unknown key, an unknown setting and an empty section. -/
def extendedText : String :=
  "color = 1\n[twitter]\nbearer_token = \"abc\"\nlang = \"en\"\n[upstream]\n[weather]\n"

/-- The members of the extended document. -/
def extendedMembers : List (String × Toml) :=
  [("color", .integer 1),
    ("twitter", .table [("bearer_token", .string "abc"), ("lang", .string "en")]),
    ("upstream", .table []), ("weather", .table [])]

theorem partialMembers_additions :
    Relation.ReflTransGen Addition partialMembers extendedMembers :=
  .tail (.tail
    (.single (@Addition.emptySection "weather" partialMembers [] (by decide) rfl))
    (@Addition.unknownSetting "twitter" ["base_url", "bearer_token", "count"] _ _ [] _ (by decide)
      ⟨[("bearer_token", .string "abc")], "lang", .string "en", [], by decide, rfl, rfl⟩))
    (.unknownKey ⟨[], "color", .integer 1, _, by decide, rfl, rfl⟩)

theorem partialMembers_tableSections : TableSections partialMembers := by
  intro name hname value hvalue
  simp only [sections, List.map_cons, List.map_nil, List.mem_cons, List.not_mem_nil, or_false]
    at hname
  obtain rfl | rfl | rfl | rfl := hname
  · cases hvalue
  · cases hvalue
    exact ⟨_, rfl⟩
  · cases hvalue
    exact ⟨_, rfl⟩
  · cases hvalue

theorem partialMembers_settles :
    Settles partialMembers {} { search := { bearerToken := some "abc" } } where
  portNumber := rfl
  timeout := rfl
  searchUrl := rfl
  bearerToken := ⟨_, rfl, rfl⟩
  count := rfl
  observationUrl := rfl
  apiKey := rfl
  fixtures := rfl

theorem partialText_settles :
    ofText partialText = .ok { search := { bearerToken := some "abc" } } ∧
    Settles partialMembers { apiKey := some "" }
      { search := { bearerToken := some "abc" }, observation := { apiKey := some "" } } ∧
    ofText extendedText = ofText partialText ∧
    ∀ config, ofText "[upstream]\ntimeout_ms = 0\n" ≠ .ok config := by
  have htext : Toml.ofText? partialText = some (.table partialMembers) := by cbv
  have hextended : Toml.ofText? extendedText = some (.table extendedMembers) := by cbv
  have hzero : Toml.ofText? "[upstream]\ntimeout_ms = 0\n" =
      some (.table [("upstream", .table [("timeout_ms", .integer 0)])]) := by cbv
  obtain ⟨hsettled, hadditions, -, -⟩ := ofText_settles htext
  obtain ⟨haccepted, hoverride⟩ := hsettled partialMembers_tableSections _
  have hok := haccepted.mpr ⟨partialMembers_settles, by decide⟩
  exact ⟨hok, hoverride hok { apiKey := some "" },
    hadditions _ _ hextended partialMembers_additions, (ofText_settles hzero).2.2.1 rfl⟩

end Config

end ContextProvider
