import ContextProvider.Envelope.Wire
import ContextProvider.Query
import ContextProvider.Route.RequestTarget
import ContextProvider.Route.Table

/-!
# Answering HTTP requests

Every reply to a query is an envelope under status 200, whatever the outcome, and even if a
parameter cannot be decoded; only a body over the size limit is refused by its status. Discovery
lists the presets of the registered backends. A known path with another method is answered by
the methods it allows. Every origin may use the interface: each response says so, and a request
for options says so in full.

Headers that say nothing about the answer are left out: `vary`, which names the same headers of a
request in every response, the length of the body and the date.
-/

namespace ContextProvider

/-- A request to this server: the target names a path, perhaps in a URL. -/
structure ServerRequest where
  method : String
  target : String
  body : List UInt8

/-- A response of this server. -/
structure ServerResponse where
  status : Nat
  headers : List (String × String)
  body : String
  deriving DecidableEq

namespace Server

/-- The most bytes that the body of a query may have. -/
def bodyLimit : Nat := 2097152

/-- The header that lets every origin read a response. -/
def anyOrigin : String × String := ("access-control-allow-origin", "*")

/-- The header that states the type of a body. -/
def contentType (type : String) : String × String := ("content-type", type)

/-- The type of JSON bodies. -/
def jsonType : String := "application/json"

/-- The type of text bodies. -/
def textType : String := "text/plain; charset=utf-8"

/-- The header that lists the allowed methods. -/
def allow (methods : String) : String × String := ("allow", methods)

/-- A response with a body of the given type. -/
def respond (status : Nat) (type body : String) : ServerResponse where
  status := status
  headers := [contentType type, anyOrigin]
  body := body

/-- A response without body. -/
def bare (status : Nat) (headers : List (String × String)) : ServerResponse where
  status := status
  headers := headers ++ [anyOrigin]
  body := ""

/-- The response that carries an envelope. -/
def ofEnvelope (envelope : Envelope) : ServerResponse :=
  respond 200 jsonType envelope.text

/-- The paths of the presets whose backends are registered. -/
def contextUrls (registry : Registry) : List String :=
  (Preset.all.filter fun preset ↦ registry.kinds.contains preset.backend).map Preset.url

/-- The list of preset paths. -/
def discovery (registry : Registry) : ServerResponse :=
  respond 200 jsonType
    (Json.object [("context_urls", .array ((contextUrls registry).map .string))]).text

/-- The error of a parameter that cannot be decoded. -/
def parameterError (name : String) : QueryError :=
  .invalidRequest ("invalid path parameters: Invalid URL: Invalid UTF-8 in `" ++ name ++ "`")

/-- The answer to a query with parameters as they stand in the path. -/
def answerQuery (registry : Registry) (kind : BackendKind) (parameters : Parameters)
    (body : List UInt8) : Traced Answer :=
  match parameters.decode with
  | .error name => .silent (.failure .unnamed (parameterError name))
  | .ok values =>
    queryContext registry kind ((values.get Route.typeParameter).getD "")
      ((values.get Route.mappingParameter).getD "")
      (.ofText? (values.get Route.selectorParameter)) body

/-- The answer to a preset query. -/
def answerPreset (registry : Registry) (preset : Preset) (body : List UInt8) : Traced Answer :=
  queryContext registry preset.backend preset.type preset.mapping (.ofText? preset.selector) body

/-- The response to a query, unless its body is too large. -/
def limited (body : List UInt8) (answer : Traced Answer) : Traced ServerResponse :=
  if bodyLimit < body.length then
    .silent (respond 413 textType "Failed to buffer the request body: length limit exceeded")
  else ⟨ofEnvelope answer.result.envelope, answer.questions⟩

/-- The methods that a target allows. -/
def allowedMethods : Target → List String
  | .health => ["GET", "HEAD"]
  | .discovery => ["GET", "HEAD"]
  | .query _ => ["POST"]
  | .preset _ => ["POST"]

/-- The header that lists the methods of a target. -/
def allowTarget (target : Target) : String × String :=
  allow (Text.joined "," (allowedMethods target))

/-- The response of a target to a method that it allows. -/
def serveTarget (registry : Registry) (target : Target) (parameters : Parameters)
    (body : List UInt8) : Traced ServerResponse :=
  match target with
  | .health => .silent (respond 200 textType "OK")
  | .discovery => .silent (discovery registry)
  | .query kind => limited body (answerQuery registry kind parameters body)
  | .preset preset => limited body (answerPreset registry preset body)

/-- The headers that let every origin use every method and header. -/
def openAccess : List (String × String) :=
  [("access-control-allow-methods", "*"), ("access-control-allow-headers", "*")]

/-- The response to a request. -/
def serve (registry : Registry) (request : ServerRequest) : Traced ServerResponse :=
  let found := Route.find? (RequestTarget.path request.target)
  if request.method = "OPTIONS" then
    .silent (bare 200 (openAccess ++ found.toList.map fun (target, _) ↦ allowTarget target))
  else match found with
    | none => .silent (bare 404 [])
    | some (target, parameters) =>
      if (allowedMethods target).contains request.method then
        let response := serveTarget registry target parameters request.body
        if request.method = "HEAD" then
          { response with result := { response.result with body := "" } }
        else response
      else .silent (bare 405 [allowTarget target])

end Server

end ContextProvider
