import ContextProvider.Proofs.Toml.Record
import ContextProvider.Service.Config

/-!
# The settings in a section

A setting has the value of its argument; without one, what its section writes; and without either,
its usual value. A fixture is written by the names of its fields, or by their places in a list.
-/

namespace ContextProvider

/-- A setting has its argument's value, or else the one the document writes, or the usual one. -/
def Settled (argument : Option α) (given : Option Toml) (Writes : Toml → α → Prop)
    (usual value : α) : Prop :=
  match argument, given with
  | some chosen, _ => value = chosen
  | none, some toml => Writes toml value
  | none, none => value = usual

/-! ## What values write -/

namespace Toml

/-- The string writes a text where there might be none. -/
def WritesSomeText (toml : Toml) (text : Option String) : Prop :=
  ∃ content, toml = .string content ∧ text = some content

/-- An entry writes a fixture by the names of its fields, or by their places in a list. -/
inductive WritesFixture : Toml → FixtureDef → Prop
  | table {fields : List (String × Toml)} {fixture : FixtureDef} {value : Toml}
      (field : fields.lookup "field" = some (.string fixture.field))
      (selector : Settled none (fields.lookup "selector") WritesSomeText none fixture.selector)
      (given : fields.lookup "value" = some value) (same : fixture.value = value.toJson) :
      WritesFixture (.table fields) fixture
  | list (field selector : String) (value : Toml) (more : List Toml) :
      WritesFixture (.array (.string field :: .string selector :: value :: more))
        { field, selector := some selector, value := value.toJson }

/-- A list writes the fixtures of its entries. -/
def WritesFixtures (toml : Toml) (fixtures : List FixtureDef) : Prop :=
  ∃ entries, toml = .array entries ∧ List.Forall₂ WritesFixture entries fixtures

end Toml

/-! ## Reading a setting -/

section

variable {record : Toml.Record} {name : String} {toml : Toml}

theorem elim_eq_some_iff_settled {α : Type*} {given : Option Toml} {read : Toml → Option α}
    {Writes : Toml → α → Prop} {usual value : α}
    (hread : ∀ toml, read toml = some value ↔ Writes toml value) :
    given.elim (some usual) read = some value ↔ Settled none given Writes usual value := by
  cases given with
  | none => simp [Settled, eq_comm]
  | some toml => exact hread toml

theorem Toml.Record.defaulted_eq_some_iff {α : Type*} {read : Toml → Option α}
    {Writes : Toml → α → Prop} {usual value : α}
    (hread : ∀ toml, read toml = some value ↔ Writes toml value) :
    record.defaulted name usual read = some value ↔
      Settled none (record.get? name) Writes usual value := by
  rw [Toml.Record.defaulted_eq_elim, elim_eq_some_iff_settled hread]

theorem Toml.someText?_eq_some_iff {text : Option String} :
    toml.someText? = some text ↔ toml.WritesSomeText text := by
  simp only [Toml.someText?, Option.map_eq_some_iff, Toml.text?_eq_some_iff, Toml.WritesText,
    Toml.WritesSomeText, eq_comm (a := text)]

end

namespace FixtureDef

variable {toml : Toml} {record : Toml.Record} {fixture : FixtureDef}

theorem ofToml?_of_record (h : toml.record? ["field", "selector", "value"] = some record) :
    ofToml? toml = some fixture ↔
      record.get? "field" = some (.string fixture.field) ∧
      Settled none (record.get? "selector") Toml.WritesSomeText none fixture.selector ∧
      ∃ value, record.get? "value" = some value ∧ fixture.value = value.toJson := by
  simp only [ofToml?, h, Option.bind_eq_bind, Option.bind_some, Option.bind_eq_some_iff,
    Toml.Record.required_eq_some_iff, Toml.text?_eq_some_iff,
    Toml.Record.defaulted_eq_some_iff fun _ ↦ Toml.someText?_eq_some_iff]
  constructor
  · rintro ⟨field, ⟨_, hfield, rfl⟩, selector, hselector, _, ⟨value, hvalue, ⟨⟩⟩, ⟨⟩⟩
    exact ⟨hfield, hselector, value, hvalue, rfl⟩
  · rintro ⟨hfield, hselector, value, hvalue, hsame⟩
    exact ⟨_, ⟨_, hfield, rfl⟩, _, hselector, _, ⟨value, hvalue, rfl⟩, by rw [← hsame]; rfl⟩

theorem ofToml?_table {fields : List (String × Toml)} :
    ofToml? (.table fields) = some fixture ↔ (Toml.table fields).WritesFixture fixture := by
  rw [ofToml?_of_record Toml.record?_table]
  simp (disch := decide) only [Toml.Record.get?_filter]
  constructor
  · rintro ⟨hfield, hselector, value, hvalue, hsame⟩
    exact .table hfield hselector hvalue hsame
  · rintro ⟨hfield, hselector, hvalue, hsame⟩
    exact ⟨hfield, hselector, _, hvalue, hsame⟩

theorem ofToml?_array {items : List Toml} :
    ofToml? (.array items) = some fixture ↔ (Toml.array items).WritesFixture fixture := by
  rw [ofToml?_of_record rfl]
  constructor
  · rintro ⟨hfield, hselector, value, hvalue, hsame⟩
    match items with
    | [] => cases hfield
    | [_] => cases hvalue
    | [_, _] => cases hvalue
    | first :: second :: third :: rest =>
      obtain ⟨selector, rfl, hsome⟩ := hselector
      obtain ⟨field, _, value⟩ := fixture
      cases hfield
      cases hvalue
      cases hsome
      cases hsame
      exact .list ..
  · rintro ⟨⟩
    exact ⟨rfl, ⟨_, rfl, rfl⟩, _, rfl, rfl⟩

theorem ofToml?_eq_some_iff : ofToml? toml = some fixture ↔ toml.WritesFixture fixture := by
  cases toml with
  | table fields => exact ofToml?_table
  | array items => exact ofToml?_array
  | datetime text =>
    rw [ofToml?_of_record rfl]
    constructor
    · rintro ⟨⟨⟩, -⟩
    · rintro ⟨⟩
  | _ =>
    constructor
    · rintro ⟨⟩
    · rintro ⟨⟩

end FixtureDef

theorem Toml.list?_fixtures_eq_some_iff {toml : Toml} {fixtures : List FixtureDef} :
    toml.list? FixtureDef.ofToml? = some fixtures ↔ toml.WritesFixtures fixtures := by
  simp only [Toml.list?_eq_some_iff, FixtureDef.ofToml?_eq_some_iff, Toml.WritesFixtures]

/-! ## Reading a section -/

section

variable {settings extended : List (String × Toml)}

theorem Config.setting?_table {name : String} {usual bound n : Nat} :
    Config.setting? name usual bound (.table settings) = some n ↔
      Settled none (settings.lookup name) (Toml.WritesNat bound) usual n := by
  rw [Config.setting?, Toml.record?_table, Option.bind_some,
    Toml.Record.defaulted_eq_some_iff fun _ ↦ Toml.natBelow?_eq_some_iff,
    Toml.Record.get?_filter (List.mem_singleton_self name)]

theorem Config.setting?_extends {name : String} {usual bound : Nat}
    (h : Toml.Extends [name] settings extended) :
    Config.setting? name usual bound (.table extended) =
      Config.setting? name usual bound (.table settings) := by
  rw [Config.setting?, Config.setting?, h.record?]

theorem SearchConfig.ofToml?_table {config : SearchConfig} :
    SearchConfig.ofToml? (.table settings) = some config ↔
      Settled none (settings.lookup "base_url") Toml.WritesText "https://api.twitter.com"
        config.baseUrl ∧
      Settled none (settings.lookup "bearer_token") Toml.WritesSomeText none config.bearerToken ∧
      Settled none (settings.lookup "count") (Toml.WritesNat 0x100000000) 15 config.count := by
  simp only [SearchConfig.ofToml?, Toml.record?_table, Option.bind_eq_bind, Option.bind_some,
    Option.bind_eq_some_iff, Toml.Record.defaulted_eq_some_iff fun _ ↦ Toml.text?_eq_some_iff,
    Toml.Record.defaulted_eq_some_iff fun _ ↦ Toml.someText?_eq_some_iff,
    Toml.Record.defaulted_eq_some_iff fun _ ↦ Toml.natBelow?_eq_some_iff]
  simp (disch := decide) only [Toml.Record.get?_filter]
  constructor
  · rintro ⟨baseUrl, hbaseUrl, bearerToken, hbearerToken, count, hcount, ⟨⟩⟩
    exact ⟨hbaseUrl, hbearerToken, hcount⟩
  · rintro ⟨hbaseUrl, hbearerToken, hcount⟩
    exact ⟨_, hbaseUrl, _, hbearerToken, _, hcount, rfl⟩

theorem SearchConfig.ofToml?_extends (h : Toml.Extends SearchConfig.names settings extended) :
    SearchConfig.ofToml? (.table extended) = SearchConfig.ofToml? (.table settings) := by
  rw [SearchConfig.ofToml?, SearchConfig.ofToml?, h.record?]

theorem ObservationConfig.ofToml?_table {config : ObservationConfig} :
    ObservationConfig.ofToml? (.table settings) = some config ↔
      Settled none (settings.lookup "base_url") Toml.WritesText "http://api.wunderground.com"
        config.baseUrl ∧
      Settled none (settings.lookup "api_key") Toml.WritesSomeText none config.apiKey := by
  simp only [ObservationConfig.ofToml?, Toml.record?_table, Option.bind_eq_bind, Option.bind_some,
    Option.bind_eq_some_iff, Toml.Record.defaulted_eq_some_iff fun _ ↦ Toml.text?_eq_some_iff,
    Toml.Record.defaulted_eq_some_iff fun _ ↦ Toml.someText?_eq_some_iff]
  simp (disch := decide) only [Toml.Record.get?_filter]
  constructor
  · rintro ⟨baseUrl, hbaseUrl, apiKey, hapiKey, ⟨⟩⟩
    exact ⟨hbaseUrl, hapiKey⟩
  · rintro ⟨hbaseUrl, hapiKey⟩
    exact ⟨_, hbaseUrl, _, hapiKey, rfl⟩

theorem ObservationConfig.ofToml?_extends
    (h : Toml.Extends ObservationConfig.names settings extended) :
    ObservationConfig.ofToml? (.table extended) = ObservationConfig.ofToml? (.table settings) := by
  rw [ObservationConfig.ofToml?, ObservationConfig.ofToml?, h.record?]

end

end ContextProvider
