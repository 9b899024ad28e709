import ContextProvider.Backend.Random
import ContextProvider.Backend.Static
import ContextProvider.Query
import ContextProvider.Service.Config

/-!
# Setting up the service

The service has one backend of each kind: random values, the configured fixtures, and the two
clients with the configured time limit. What cannot be set up is reported in this order: the
fixtures, the search client, the observation client.
-/

namespace ContextProvider

/-- Why the service cannot be set up. -/
inductive SetupFault where
  | fixtures (error : FixtureError)
  | search (fault : Url.BaseFault)
  | observation (fault : Url.BaseFault)

namespace SetupFault

/-- What is said of a fault first. -/
def context : SetupFault → String
  | fixtures _ => "Invalid fixture"
  | search _ => "Invalid twitter.base_url"
  | observation _ => "Invalid weather.base_url"

/-- The reason behind a fault. -/
def reason : SetupFault → String
  | fixtures error => error.message
  | search fault => fault.message
  | observation fault => fault.message

/-- The full text of a fault. -/
def message (fault : SetupFault) : String :=
  fault.context ++ ": " ++ fault.reason

end SetupFault

namespace Config

/-- The backends that a configuration describes, over a network and with a source of chance. -/
def backends (config : Config) (network : Network) (draws : Random.Draws) :
    Except SetupFault Registry := do
  let table ← config.fixtureTable.mapError .fixtures
  let search ← (SearchClient.ofConfig config.search).mapError .search
  let observation ← (ObservationClient.ofConfig config.observation).mapError .observation
  return ⟨[Random.backend draws, table.backend, search.backend network config.timeout,
    observation.backend network config.timeout]⟩

end Config

end ContextProvider
