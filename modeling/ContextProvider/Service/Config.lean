import ContextProvider.Backend.Fixture
import ContextProvider.Client.Observation
import ContextProvider.Client.Search
import ContextProvider.Toml.Reader
import ContextProvider.Toml.Record

/-!
# Configuration

A configuration is read from a TOML document with a section for each part of the service. A
setting has the document's value if it is given there, and its default if it is not, whether the
rest of its section is given or not; unknown keys do not count. The time limit cannot be zero.
Settings from the command line replace those of the document.
-/

namespace ContextProvider

/-- The settings of the service. -/
structure Config where
  portNumber : Nat := 3000
  timeout : Nat := Live.defaultTimeout
  search : SearchConfig := {}
  observation : ObservationConfig := {}
  fixtures : List FixtureDef := []

/-- Why a document is no configuration. -/
inductive ConfigFault where
  | malformed
  | zeroTimeout
  deriving DecidableEq

/-- The text of a fault. -/
def ConfigFault.message : ConfigFault → String
  | malformed => "TOML parse error"
  | zeroTimeout => "upstream.timeout_ms must be greater than zero"

/-- A text that may be missing and, where it is given, is a text. -/
def Toml.someText? (value : Toml) : Option (Option String) :=
  value.text?.map some

/-- The settings of the search client in a section. -/
def SearchConfig.ofToml? (settings : Toml) : Option SearchConfig := do
  let record ← settings.record? names
  let usual : SearchConfig := {}
  let baseUrl ← record.defaulted "base_url" usual.baseUrl Toml.text?
  let bearerToken ← record.defaulted "bearer_token" usual.bearerToken Toml.someText?
  let count ← record.defaulted "count" usual.count (Toml.natBelow? 0x100000000)
  return { baseUrl, bearerToken, count }

/-- The settings of the observation client in a section. -/
def ObservationConfig.ofToml? (settings : Toml) : Option ObservationConfig := do
  let record ← settings.record? names
  let usual : ObservationConfig := {}
  let baseUrl ← record.defaulted "base_url" usual.baseUrl Toml.text?
  let apiKey ← record.defaulted "api_key" usual.apiKey Toml.someText?
  return { baseUrl, apiKey }

/-- The fixture that a value defines. -/
def FixtureDef.ofToml? (definition : Toml) : Option FixtureDef := do
  let record ← definition.record? ["field", "selector", "value"]
  let field ← record.required "field" Toml.text?
  let selector ← record.defaulted "selector" none Toml.someText?
  let value ← record.required "value" fun value ↦ some value.toJson
  return { field, selector, value }

namespace Config

/-- One setting in a section of its own. -/
def setting? (name : String) (value : Nat) (bound : Nat) (settings : Toml) : Option Nat :=
  (settings.record? [name]).bind fun record ↦
    record.defaulted name value (Toml.natBelow? bound)

/-- The names of the sections in the order of their declaration. -/
def names : List String := ["server", "upstream", "twitter", "weather", "fixtures"]

/-- The configuration in a document, whatever its time limit. -/
def ofToml? (document : Toml) : Option Config := do
  let record ← document.record? names
  let usual : Config := {}
  let portNumber ← record.defaulted "server" usual.portNumber
    (setting? "port" usual.portNumber 0x10000)
  let timeout ← record.defaulted "upstream" usual.timeout
    (setting? "timeout_ms" usual.timeout 0x10000000000000000)
  let search ← record.defaulted "twitter" usual.search SearchConfig.ofToml?
  let observation ← record.defaulted "weather" usual.observation ObservationConfig.ofToml?
  let fixtures ← record.defaulted "fixtures" usual.fixtures (Toml.list? FixtureDef.ofToml?)
  return { portNumber, timeout, search, observation, fixtures }

/-- The configuration in a document. -/
def ofDocument (document : Toml) : Except ConfigFault Config :=
  match ofToml? document with
  | none => .error .malformed
  | some config => if config.timeout = 0 then .error .zeroTimeout else .ok config

/-- The configuration that a text spells. -/
def ofText (text : String) : Except ConfigFault Config :=
  match Toml.ofText? text with
  | none => .error .malformed
  | some document => ofDocument document

/-! ## Files -/

/-- Why a file gives no configuration. -/
inductive FileFault where
  | unreadable
  | unusable (fault : ConfigFault)
  deriving DecidableEq

/-- What is said of a file first. -/
def FileFault.context (path : String) : FileFault → String
  | unreadable => "Failed to read config file: " ++ path
  | unusable _ => "Failed to parse config file: " ++ path

/-- The configuration in the bytes of a file, if it is there. -/
def ofFile (contents : Option (List UInt8)) : Except FileFault Config :=
  match contents.bind Text.ofUtf8? with
  | none => .error .unreadable
  | some text => (ofText text).mapError .unusable

/-! ## Settings from the command line -/

/-- Settings that replace those of a configuration. -/
structure Overrides where
  portNumber : Option Nat := none
  bearerToken : Option String := none
  apiKey : Option String := none
  deriving DecidableEq

/-- The configuration with the settings replaced that are given, even by an empty text. -/
def override (config : Config) (overrides : Overrides) : Config :=
  { config with
    portNumber := overrides.portNumber.getD config.portNumber
    search := { config.search with
      bearerToken := overrides.bearerToken.or config.search.bearerToken }
    observation := { config.observation with
      apiKey := overrides.apiKey.or config.observation.apiKey } }

/-- The table of the configured fixtures, or the one there is if none are. -/
def fixtureTable (config : Config) : Except FixtureError FixtureTable :=
  if config.fixtures.isEmpty then .ok .builtin else FixtureTable.ofDefs config.fixtures

end Config

end ContextProvider
