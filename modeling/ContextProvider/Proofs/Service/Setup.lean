import ContextProvider.Service.Setup

/-!
# Services that are set up

A service can be set up exactly if its fixtures and its two clients can, and has a backend of each
kind then. So what one of its backends is depends on no other.
-/

namespace ContextProvider

namespace Config

variable {config : Config} {network : Network} {draws : Random.Draws} {registry : Registry}

theorem backends_eq_ok_iff : config.backends network draws = .ok registry ↔
    ∃ table search observation, config.fixtureTable = .ok table ∧
      SearchClient.ofConfig config.search = .ok search ∧
      ObservationClient.ofConfig config.observation = .ok observation ∧
      registry = ⟨[Random.backend draws, table.backend, search.backend network config.timeout,
        observation.backend network config.timeout]⟩ := by
  constructor
  · intro h
    cases htable : config.fixtureTable with
    | error error =>
      rw [backends, htable] at h
      cases h
    | ok table =>
      cases hsearch : SearchClient.ofConfig config.search with
      | error fault =>
        rw [backends, htable, hsearch] at h
        cases h
      | ok search =>
        cases hobservation : ObservationClient.ofConfig config.observation with
        | error fault =>
          rw [backends, htable, hsearch, hobservation] at h
          cases h
        | ok observation =>
          rw [backends, htable, hsearch, hobservation] at h
          exact ⟨table, search, observation, rfl, rfl, rfl, (Except.ok.inj h).symm⟩
  · rintro ⟨table, search, observation, htable, hsearch, hobservation, rfl⟩
    rw [backends, htable, hsearch, hobservation]
    rfl

/-- With the usual fixtures, only the clients can keep a service from being set up. -/
theorem exists_backends {search : SearchClient} {observation : ObservationClient}
    (hfixtures : config.fixtures = []) (hsearch : SearchClient.ofConfig config.search = .ok search)
    (hobservation : ObservationClient.ofConfig config.observation = .ok observation)
    (network : Network) (draws : Random.Draws) :
    ∃ registry, config.backends network draws = .ok registry := by
  have htable : config.fixtureTable = .ok .builtin := by
    rw [fixtureTable, hfixtures]
    rfl
  exact ⟨_, backends_eq_ok_iff.mpr
    ⟨_, search, observation, htable, hsearch, hobservation, rfl⟩⟩

/-- The searches of a service go through the client of its configuration. -/
theorem find?_twitter {client : SearchClient}
    (hclient : SearchClient.ofConfig config.search = .ok client)
    (h : config.backends network draws = .ok registry) :
    registry.find? .twitter = some (client.backend network config.timeout) := by
  obtain ⟨table, search, observation, -, hsearch, -, rfl⟩ := backends_eq_ok_iff.mp h
  cases hclient.symm.trans hsearch
  rfl

/-- The client of a configuration with settings from the command line: its token is the one given
there, or else the one of the configuration, and an empty token counts as none. -/
theorem exists_search_override {base : Url} (hbase : Url.ofText config.search.baseUrl = .ok base)
    (overrides : Overrides) :
    ∃ client, SearchClient.ofConfig (config.override overrides).search = .ok client ∧
      client.base = base ∧ client.count = config.search.count ∧
      client.token = (overrides.bearerToken.or config.search.bearerToken).filter (· ≠ "") := by
  simp only [SearchClient.ofConfig, override, hbase]
  exact ⟨_, rfl, rfl, rfl, rfl⟩

end Config

end ContextProvider
