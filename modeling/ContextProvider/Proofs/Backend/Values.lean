import ContextProvider.Client.Observation
import ContextProvider.Client.Search
import ContextProvider.Proofs.Backend.Contract
import ContextProvider.Proofs.Backend.Fixture
import ContextProvider.Proofs.Json.Range
import ContextProvider.Proofs.Service.Setup

/-!
# What the values are

Scalars are numbers and lists hold no structures, whichever backend they come from. A reading is
never one of the doubles that JSON has no number for: draws are bounded, texts that spell such a
double are refused, and the integers of an observation fit 64 bits.
-/

namespace ContextProvider

open Json Number

/-- The items that the lists of a kind hold: texts, numbers unless drawn, and truth values from a
live data source. -/
inductive BackendKind.Lists : BackendKind → Json → Prop
  | string {kind : BackendKind} {s : String} : Lists kind (.string s)
  | number {kind : BackendKind} {n : Numeric} (drawn : kind ≠ .random) : Lists kind (.number n)
  | bool {kind : BackendKind} {b : Bool} (live : kind.live?.isSome) : Lists kind (.bool b)

/-- A number, or a list of items that the kind may hold. -/
inductive AttributeValue.WellTyped (kind : BackendKind) : AttributeValue → Prop
  | number (n : Numeric) : WellTyped kind (.scalar (.number n))
  | list {items : List Json} (held : ∀ item ∈ items, kind.Lists item) :
      WellTyped kind (.list items)

theorem AttributeValue.wellTyped_number {kind : BackendKind} {x : Double}
    (h : ∃ value, x = .finite value) : (number x).WellTyped kind := by
  obtain ⟨value, rfl⟩ := h
  exact .number _

/-! ## Random values -/

namespace Random

theorem rangeOf_bounds (field : String) :
    -1050 ≤ (rangeOf field).low ∧ (rangeOf field).high ≤ 1050 := by
  unfold rangeOf
  split_ifs <;> decide

theorem exists_ofHundredths_eq_finite (field : String) (q : Rat) :
    ∃ value, ofHundredths (hundredths (rangeOf field) q) = .finite value := by
  have hbounds := rangeOf_bounds field
  have hordered := (rangeOf field).low_le_high
  have hsmall : (hundredths (rangeOf field) q).natAbs ≤ 105000 := by
    simp only [hundredths]
    omega
  apply exists_ofQuotient_eq_finite _ (by decide)
  calc (hundredths (rangeOf field) q).natAbs
    _ ≤ 105000 := hsmall
    _ < 100 * 2 ^ 200 := by decide

theorem wellTyped_value (draws : Draws) (position : Nat) (spec : AttributeSpec) :
    (value draws position spec).WellTyped .random := by
  obtain ⟨name, field, shape⟩ := spec
  cases shape with
  | scalar => exact AttributeValue.wellTyped_number (exists_ofHundredths_eq_finite field _)
  | list =>
    refine .list fun item hitem ↦ ?_
    obtain ⟨i, -, rfl⟩ := List.mem_map.mp hitem
    exact .string

end Random

/-! ## Fixtures -/

namespace FixtureTable

theorem wellTyped_of_isFixtureValue {defined : Json} (h : defined.IsFixtureValue) :
    (AttributeValue.ofJson defined).WellTyped .static := by
  cases h with
  | number n => exact .number n
  | array flat =>
    refine .list fun item hitem ↦ ?_
    rcases flat item hitem with ⟨n, rfl⟩ | ⟨s, rfl⟩
    · exact .number (by decide)
    · exact .string

/-- Every fixture of the table is well typed. -/
def WellTyped (table : FixtureTable) : Prop :=
  ∀ entry ∈ table.entries, entry.2.WellTyped .static

/-- An accepted table holds well-typed fixtures only. -/
theorem wellTyped_ofDefs {definitions : List FixtureDef} {table : FixtureTable}
    (h : ofDefs definitions = .ok table) : table.WellTyped := by
  obtain ⟨haccepted, rfl⟩ := ofDefs_eq_ok_iff.mp h
  intro entry hentry
  obtain ⟨definition, hdefinition, rfl⟩ := List.mem_map.mp hentry
  exact wellTyped_of_isFixtureValue (haccepted.valid definition hdefinition).fits

theorem wellTyped_of_lookup {table : FixtureTable} (htable : table.WellTyped)
    {spec : AttributeSpec} {selector : Selector} {value : AttributeValue}
    (h : table.lookup spec selector = .ok value) : value.WellTyped .static := by
  obtain ⟨entry, hentry, rfl⟩ := Option.map_eq_some_iff.mp (lookup_eq_ok_iff.mp h).1
  exact htable entry (List.mem_of_find?_eq_some hentry)

end FixtureTable

/-! ## Live data sources -/

theorem Search.lists_of_extract {spec : AttributeSpec} {item : Fields} {value : Json}
    (h : extract spec item = .ok value) : BackendKind.twitter.Lists value := by
  unfold extract at h
  split at h
  · cases h
  · split at h
    · rename_i found _ hitem
      cases h
      cases value with
      | string s => exact .string
      | number n => exact .number (by decide)
      | bool b => exact .bool rfl
      | null | array | object => cases hitem
    · cases h

/-- An observation as JSON has it: its numbers are in range. -/
def Observation.InRange (observation : Fields) : Prop :=
  ∀ field n, observation.get? field = some (.number n) → n.InRange

theorem Observation.exists_eq_finite_of_coerceNumber {value : Json} {x : Double}
    (hrange : ∀ n, value = .number n → n.InRange) (h : coerceNumber value = some x) :
    ∃ finite, x = .finite finite := by
  cases value with
  | number n =>
    cases h
    exact (hrange n rfl).exists_toDouble_eq_finite
  | string s =>
    rw [coerceNumber] at h
    obtain ⟨-, hfinite⟩ := Option.filter_eq_some_iff.mp h
    cases x with
    | finite value => exact ⟨value, rfl⟩
    | infinite | notANumber => cases hfinite
  | null | bool | array | object => cases h

theorem Observation.wellTyped_of_reading {spec : AttributeSpec} {observation : Fields}
    (hrange : InRange observation) {value : AttributeValue}
    (h : reading spec observation = .ok value) : value.WellTyped .weather := by
  unfold reading at h
  split at h
  · cases h
  · rename_i found hfound
    split at h
    · rename_i x hx
      cases h
      apply AttributeValue.wellTyped_number
      apply exists_eq_finite_of_coerceNumber _ hx
      rintro n rfl
      exact hrange _ n hfound
    · cases h

theorem Live.wellTyped {α : Type} {kind : BackendKind} {shape : Shape}
    {question : String → Question} {source : String → Arrival α} {limit : Nat}
    {read : AttributeSpec → α → Except FetchError AttributeValue} {m : Mapping}
    {selector : Selector} {values : List RawValue}
    (h : ((backend kind shape question source limit read).fetch m selector).result = .ok values)
    (hread : ∀ text answer, (source text).within limit = .ok answer →
      ∀ spec value, read spec answer = .ok value → value.WellTyped kind) :
    ∀ raw ∈ values, raw.value.WellTyped kind := by
  have hturn := fetch_turn kind shape question source limit read m selector
  generalize (backend kind shape question source limit read).fetch m selector = traced at hturn h
  cases hturn with
  | misfit => cases h
  | missing => cases h
  | @asked text fit given =>
    cases harrived : (source text).within limit with
    | error error => simp [harrived, Live.values] at h
    | ok answer =>
      rw [harrived] at h
      intro raw hmem
      obtain ⟨spec, -, hraw⟩ := exists_of_mem_of_mapM_eq_ok h hmem
      exact hread text answer harrived spec raw.value (value_eq_ok_iff.mp hraw).1

theorem Arrival.exists_of_within_eq_ok {α : Type} {arrival : Arrival α} {limit : Nat} {answer : α}
    (h : arrival.within limit = .ok answer) :
    ∃ milliseconds, arrival = .after milliseconds (.ok answer) := by
  cases arrival with
  | after milliseconds arrived =>
    simp only [within] at h
    split at h
    · exact ⟨milliseconds, by rw [h]⟩
    · cases h
  | never => cases h

/-! ## All of them -/

/-- A backend of this library over data as they come: any draws, an accepted table, any results of a
search, any observations as JSON has them. -/
inductive Backend.Supplied : Backend → Prop
  | random (draws : Random.Draws) : Supplied (Random.backend draws)
  | static {definitions : List FixtureDef} {table : FixtureTable}
      (accepted : FixtureTable.ofDefs definitions = .ok table) : Supplied table.backend
  | search (source : String → Arrival (List Fields)) (limit : Nat) :
      Supplied (Search.backend source limit)
  | observation {source : String → Arrival Fields}
      (inRange : ∀ place milliseconds observation,
        source place = .after milliseconds (.ok observation) → Observation.InRange observation)
      (limit : Nat) : Supplied (Observation.backend source limit)

/-- Whatever values a backend comes up with, they are well typed. -/
theorem Backend.Supplied.wellTyped {backend : Backend} (supplied : backend.Supplied) {m : Mapping}
    {selector : Selector} {values : List RawValue}
    (h : (backend.fetch m selector).result = .ok values) :
    ∀ raw ∈ values, raw.value.WellTyped backend.kind := by
  cases supplied with
  | random draws =>
    rw [Random.fetch_result] at h
    cases h
    intro raw hraw
    obtain ⟨position, hposition, rfl⟩ := List.mem_mapIdx.mp hraw
    exact Random.wellTyped_value draws position _
  | static accepted =>
    rw [FixtureTable.fetch_result] at h
    intro raw hmem
    obtain ⟨spec, -, hraw⟩ := exists_of_mem_of_mapM_eq_ok h hmem
    obtain ⟨value, hvalue, rfl⟩ := map_eq_ok_iff.mp hraw
    exact FixtureTable.wellTyped_of_lookup (FixtureTable.wellTyped_ofDefs accepted) hvalue
  | search source limit =>
    apply Live.wellTyped h
    intro text answer _ spec value hvalue
    obtain ⟨items, hitems, rfl⟩ := map_eq_ok_iff.mp hvalue
    refine .list fun item hmem ↦ ?_
    obtain ⟨result, -, hextract⟩ := exists_of_mem_of_mapM_eq_ok hitems hmem
    exact Search.lists_of_extract hextract
  | observation inRange limit =>
    apply Live.wellTyped h
    intro place observation hwithin spec value hvalue
    obtain ⟨milliseconds, harrived⟩ := Arrival.exists_of_within_eq_ok hwithin
    exact Observation.wellTyped_of_reading (inRange _ _ _ harrived) hvalue

/-! ## Observations over a network -/

theorem ObservationClient.inRange_observation {answer : Json} (hanswer : IsRead answer)
    {observed : Fields} (h : observation answer = .ok observed) : Observation.InRange observed := by
  unfold observation at h
  split at h
  · cases h
  · rename_i fields hfields
    have hobject : answer = .object fields := by
      cases answer <;> cases hfields
      rfl
    split at h
    · cases h
    · split at h
      · rename_i found hfound
        cases h
        rw [hobject] at hanswer
        exact fun field n hn ↦ ((hanswer.member hfound).member hn).inRange
      · cases h
      · cases h

theorem FetchReply.isRead_of_readJson {reply : FetchReply} {value : Json}
    (h : reply.readJson = .ok value) : IsRead value := by
  unfold readJson at h
  split at h
  · cases h
  · split at h
    · split at h
      · rename_i found hfound
        cases h
        obtain ⟨bytes, -, hbytes⟩ := Option.bind_eq_some_iff.mp hfound
        exact isRead_of_ofJsonBytes? hbytes
      · cases h
    · cases h

/-- An exchange that gives an answer has read it from a reply. -/
theorem FetchRequest.exists_of_exchange_eq_ok {α : Type} {network : Network}
    {request : Except FetchError FetchRequest} {reader : FetchReply → Except FetchError α}
    {milliseconds : Nat} {answer : α}
    (h : (exchange network request reader).arrival = .after milliseconds (.ok answer)) :
    ∃ reply, reader reply = .ok answer := by
  cases request with
  | error error => cases h
  | ok request =>
    simp only [exchange, send, Exchange.read, Arrival.read] at h
    split at h
    · rename_i reply _
      exact ⟨reply, (Arrival.after.inj h).2⟩
    · cases h
    · cases h

namespace ObservationClient

theorem inRange_of_readReply {reply : FetchReply} {observed : Fields}
    (h : readReply reply = .ok observed) : Observation.InRange observed := by
  unfold readReply at h
  split at h
  · cases h
  · rename_i answer hanswer
    exact inRange_observation (FetchReply.isRead_of_readJson hanswer) h

/-- The observations of a client are as JSON has them, whatever the network replies. -/
theorem supplied_backend (client : ObservationClient) (network : Network) (limit : Nat) :
    (client.backend network limit).Supplied := by
  apply Backend.Supplied.observation
  intro place milliseconds observed harrived
  obtain ⟨reply, hreply⟩ := FetchRequest.exists_of_exchange_eq_ok harrived
  exact inRange_of_readReply hreply

end ObservationClient

/-! ## Configured backends -/

theorem FixtureTable.exists_ofDefs_eq_builtin :
    ∃ definitions, ofDefs definitions = .ok builtin := by
  cases hbuiltin : ofDefs builtinDefs with
  | ok table => exact ⟨builtinDefs, by rw [builtin, hbuiltin]⟩
  | error error => exact ⟨[], by rw [builtin, hbuiltin]; rfl⟩

theorem Config.exists_ofDefs_of_fixtureTable {config : Config} {table : FixtureTable}
    (h : config.fixtureTable = .ok table) :
    ∃ definitions, FixtureTable.ofDefs definitions = .ok table := by
  unfold fixtureTable at h
  split at h
  · cases h
    exact FixtureTable.exists_ofDefs_eq_builtin
  · exact ⟨config.fixtures, h⟩

/-- The backends that a configuration describes are supplied, over any network. -/
theorem Config.supplied_backends {config : Config} {network : Network} {draws : Random.Draws}
    {registry : Registry} (h : config.backends network draws = .ok registry) :
    ∀ backend ∈ registry.backends, backend.Supplied := by
  obtain ⟨table, search, observation, htable, -, -, rfl⟩ := backends_eq_ok_iff.mp h
  obtain ⟨definitions, haccepted⟩ := exists_ofDefs_of_fixtureTable htable
  simp only [List.forall_mem_cons]
  exact ⟨.random draws, .static haccepted, .search _ _,
    observation.supplied_backend network config.timeout, List.forall_mem_nil _⟩

end ContextProvider
