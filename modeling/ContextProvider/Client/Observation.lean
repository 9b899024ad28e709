import ContextProvider.Backend.Observation
import ContextProvider.Client.Reply
import ContextProvider.Url.Reader

/-!
# Observing

The observation client asks for the current conditions at a place with a key. The parts of a
place are separated by slashes, the city last; blanks around parts and empty parts do not count.
Its data source answers with an object that has the observation under `current_observation`. A
`response` with an `error` in it is a refusal, whatever else the answer holds.
-/

namespace ContextProvider

open Json

/-- The settings of the observation client. -/
structure ObservationConfig where
  baseUrl : String := "http://api.wunderground.com"
  apiKey : Option String := none
  deriving DecidableEq

/-- The names of the settings in the order of their declaration. -/
def ObservationConfig.names : List String := ["base_url", "api_key"]

/-- The settings in a JSON text. -/
def ObservationConfig.ofTree? (tree : Tree) : Option ObservationConfig := do
  let record ← tree.record? names maxNesting
  let settings : ObservationConfig := {}
  let baseUrl ← record.defaulted "base_url" settings.baseUrl Tree.text?
  let apiKey ← record.defaulted "api_key" settings.apiKey Tree.optionalText?
  return { baseUrl, apiKey }

/-- A client of the observations. -/
structure ObservationClient where
  base : Url
  key : Option String

namespace ObservationClient

/-- The client with the given settings; an empty key counts as none. -/
def ofConfig (config : ObservationConfig) : Except Url.BaseFault ObservationClient :=
  (Url.ofText config.baseUrl).map fun base ↦
    { base, key := config.apiKey.filter (· ≠ "") }

/-- The parts of a place. -/
def placeParts (place : String) : List String :=
  ((Text.pieces '/' place).map Text.trim).filter (· ≠ "")

/-- The segments behind the base URL, if the place has a part. -/
def segments? (key place : String) : Option (List String) :=
  (placeParts place).getLast?.map fun city ↦
    ["api", key, "conditions", "q"] ++ (placeParts place).dropLast ++ [city ++ ".json"]

/-- The URL for a place. -/
def url (client : ObservationClient) (key place : String) : Except FetchError Url :=
  match segments? key place with
  | none => .error (.rejected ("invalid location '" ++ place ++ "'"))
  | some segments => .ok (client.base.join segments)

/-- The request for a place. -/
def request (client : ObservationClient) (place : String) : Except FetchError FetchRequest :=
  match client.key with
  | none => .error (.notConfigured "weather api key")
  | some key =>
    match client.url key place with
    | .error error => .error error
    | .ok url => FetchRequest.make url none

/-- A text under a name, or another one where there is none. -/
def textOr (value : Json) (name : String) (other : String) : String :=
  ((value.member? name).bind Json.string?).getD other

/-- The refusal that an answer contains. -/
def refusal? (answer : Json) : Option String :=
  ((answer.member? "response").bind fun response ↦ response.member? "error").map fun error ↦
    textOr error "type" "error" ++ ": " ++ textOr error "description" "no description"

/-- The observation in an answer. -/
def observation (answer : Json) : Except FetchError Fields :=
  match answer.fields? with
  | none => .error (.malformed "conditions response is not an object")
  | some fields =>
    match refusal? answer with
    | some reason => .error (.rejected reason)
    | none =>
      match fields.get? "current_observation" with
      | some (.object observed) => .ok observed
      | some _ => .error (.malformed "'current_observation' is not an object")
      | none => .error (.malformed "conditions response has no 'current_observation'")

/-- The observation in a reply. -/
def readReply (reply : FetchReply) : Except FetchError Fields :=
  match reply.readJson with
  | .error error => .error error
  | .ok answer => observation answer

/-- Asking for the observation at a place. -/
def exchange (client : ObservationClient) (network : Network) (place : String) :
    Exchange Fields :=
  FetchRequest.exchange network (client.request place) readReply

/-- The observation at a place. -/
def observe (client : ObservationClient) (network : Network) (place : String) : Arrival Fields :=
  (client.exchange network place).arrival

/-- The backend that answers through the client. -/
def backend (client : ObservationClient) (network : Network) (limit : Nat) : Backend :=
  Observation.backend (client.observe network) limit

end ObservationClient

end ContextProvider
