import ContextProvider.Backend.Kind

/-!
# Presets

A preset pins the type, the mapping and perhaps the selector of a request to one backend, so that
its route needs no parameters. Presets are listed in the order in which discovery reports them.
-/

namespace ContextProvider

/-- The prefix of every route of the interface. -/
def routePrefix : String := "/proxy/v1"

/-- The last segment of every route that answers queries. -/
def querySegment : String := "queryContext"

/-- A request with fixed parameters. -/
structure Preset where
  backend : BackendKind
  name : String
  type : String
  mapping : String
  selector : Option String
  deriving DecidableEq

namespace Preset

/-- The path of a preset behind the common prefix. -/
def path (preset : Preset) : String :=
  "/" ++ preset.backend.word ++ "/" ++ preset.name ++ "/" ++ querySegment

/-- The path of a preset. -/
def url (preset : Preset) : String :=
  routePrefix ++ preset.path

/-- The place that weather presets are about. -/
def defaultPlace : String := "Germany/Berlin"

/-- The term that search presets look for. -/
def defaultTerm : String := "FIWARE"

/-- The presets of a backend that needs no selector. -/
def selfContained (kind : BackendKind) : List Preset := [
  ⟨kind, "temperature", "number", "temperature", none⟩,
  ⟨kind, "relativeHumidity", "number", "relativeHumidity", none⟩,
  ⟨kind, "tweets", "list", "tweets:array", none⟩,
  ⟨kind, "weatherConditions", "number", "temperature,relativeHumidity", none⟩]

/-- The presets of the backends with live data. -/
def live : List Preset := [
  ⟨.twitter, "tweets", "list", "tweets:text", some defaultTerm⟩,
  ⟨.weather, "temperature", "number", "temperature:temp_c", some defaultPlace⟩,
  ⟨.weather, "relativeHumidity", "number", "relativeHumidity:relative_humidity",
    some defaultPlace⟩,
  ⟨.weather, "weatherConditions", "number",
    "temperature:temp_c,relativeHumidity:relative_humidity", some defaultPlace⟩]

/-- Every preset. -/
def all : List Preset :=
  selfContained .random ++ selfContained .static ++ live

end Preset

end ContextProvider
