import ContextProvider.Backend.Search
import ContextProvider.Client.Reply
import ContextProvider.Url.Reader

/-!
# Searching

The search client asks for the results of a term with a bearer token. Its data source answers with
an object whose `statuses` are the results, each an object; anything else is malformed as a whole.
-/

namespace ContextProvider

open Json

/-- The settings of the search client. -/
structure SearchConfig where
  baseUrl : String := "https://api.twitter.com"
  bearerToken : Option String := none
  count : Nat := 15
  deriving DecidableEq

/-- The names of the settings in the order of their declaration. -/
def SearchConfig.names : List String := ["base_url", "bearer_token", "count"]

/-- The settings in a JSON text. -/
def SearchConfig.ofTree? (tree : Tree) : Option SearchConfig := do
  let record ← tree.record? names maxNesting
  let settings : SearchConfig := {}
  let baseUrl ← record.defaulted "base_url" settings.baseUrl Tree.text?
  let bearerToken ← record.defaulted "bearer_token" settings.bearerToken Tree.optionalText?
  let count ← record.defaulted "count" settings.count (Tree.natBelow? 0x100000000)
  return { baseUrl, bearerToken, count }

/-- A client of the search. -/
structure SearchClient where
  base : Url
  token : Option String
  count : Nat

namespace SearchClient

/-- The client with the given settings; an empty token counts as none. -/
def ofConfig (config : SearchConfig) : Except Url.BaseFault SearchClient :=
  (Url.ofText config.baseUrl).map fun base ↦
    { base, token := config.bearerToken.filter (· ≠ ""), count := config.count }

/-- The segments behind the base URL. -/
def segments : List String := ["1.1", "search", "tweets.json"]

/-- The pairs of the query for a term. -/
def pairs (client : SearchClient) (term : String) : List (String × String) :=
  [("q", term), ("count", String.ofList (natChars client.count))]

/-- The URL for a term. -/
def url (client : SearchClient) (term : String) : Url :=
  (client.base.join segments).addPairs (client.pairs term)

/-- The request for a term. -/
def request (client : SearchClient) (term : String) : Except FetchError FetchRequest :=
  match client.token with
  | none => .error (.notConfigured "twitter bearer token")
  | some token => FetchRequest.make (client.url term) (some ("Bearer " ++ token))

/-- The fields of a result. -/
def resultFields (value : Json) : Except FetchError Fields :=
  match value.fields? with
  | some fields => .ok fields
  | none => .error (.malformed ("search result is not an object: " ++ value.text))

/-- The results in an answer. -/
def results (answer : Json) : Except FetchError (List Fields) :=
  match answer.fields? with
  | none => .error (.malformed "search response is not an object")
  | some fields =>
    match fields.get? "statuses" with
    | some (.array items) => items.mapM resultFields
    | some _ => .error (.malformed "'statuses' is not an array")
    | none => .error (.malformed "search response has no 'statuses'")

/-- The results in a reply. -/
def readReply (reply : FetchReply) : Except FetchError (List Fields) :=
  match reply.readJson with
  | .error error => .error error
  | .ok answer => results answer

/-- Asking for the results for a term. -/
def exchange (client : SearchClient) (network : Network) (term : String) :
    Exchange (List Fields) :=
  FetchRequest.exchange network (client.request term) readReply

/-- The results for a term. -/
def search (client : SearchClient) (network : Network) (term : String) : Arrival (List Fields) :=
  (client.exchange network term).arrival

/-- The backend that answers through the client. -/
def backend (client : SearchClient) (network : Network) (limit : Nat) : Backend :=
  Search.backend (client.search network) limit

end SearchClient

end ContextProvider
