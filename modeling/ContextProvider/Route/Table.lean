import ContextProvider.Route.Preset
import ContextProvider.Text.Percent
import ContextProvider.Text.Pieces

/-!
# Routes

A path is matched segment by segment. A fixed segment matches itself as written, a parameter any
one segment, even an empty one. Parameters are percent-decoded after matching, so that an encoded
slash stays inside its parameter; a parameter whose bytes are not well-formed text is reported
under its name, the first one if there are several.
-/

namespace ContextProvider

/-- A segment of a route. -/
inductive RouteSegment where
  | fixed (word : String)
  | parameter (name : String)
  deriving DecidableEq

/-- What a route leads to. -/
inductive Target where
  | health
  | discovery
  /-- A query whose type, mapping and perhaps selector are parameters. -/
  | query (kind : BackendKind)
  | preset (preset : Preset)
  deriving DecidableEq

/-- A route: the segments of its path, and what it leads to. -/
structure Route where
  segments : List RouteSegment
  target : Target

/-- The values of parameters by name, as they stand in a path. -/
abbrev Parameters := List (String × String)

namespace Route

/-- The segments of a path behind its first slash. -/
def splitPath (path : String) : Option (List String) :=
  match Text.pieces '/' path with
  | "" :: first :: rest => some (first :: rest)
  | _ => none

/-- The route of a path without parameters. -/
def fixed (path : String) (target : Target) : Route where
  segments := ((splitPath path).getD []).map .fixed
  target := target

/-- The name of the type parameter. -/
def typeParameter : String := "type"

/-- The name of the mapping parameter. -/
def mappingParameter : String := "mapping"

/-- The name of the selector parameter. -/
def selectorParameter : String := "queryString"

/-- The route of queries to a backend with the given parameters. -/
def query (kind : BackendKind) (parameters : List String) : Route where
  segments := [.fixed "proxy", .fixed "v1", .fixed kind.word] ++
    parameters.map .parameter ++ [.fixed querySegment]
  target := .query kind

/-- The parameters of a query without selector. -/
def plainParameters : List String := [typeParameter, mappingParameter]

/-- The parameters of a query with selector. -/
def selectorParameters : List String := [typeParameter, mappingParameter, selectorParameter]

/-- Every route. -/
def all : List Route :=
  [ fixed "/health" .health,
    fixed routePrefix .discovery,
    fixed (routePrefix ++ "/") .discovery,
    query .random plainParameters,
    query .static plainParameters,
    query .static selectorParameters,
    query .twitter selectorParameters,
    query .weather selectorParameters ] ++
  Preset.all.map fun preset ↦ fixed preset.url (.preset preset)

/-- The parameters of a path that matches the segments of a route. The server that this describes
answers a query whose type is empty, as in `/proxy/v1/random//a/queryContext`, by the envelope of a
refused type, and one whose mapping is followed by two slashes under the route with a selector; so a
parameter matches an empty segment here. -/
def matchSegments : List RouteSegment → List String → Option Parameters
  | [], [] => some []
  | .fixed word :: segments, segment :: path =>
    if word = segment then matchSegments segments path else none
  | .parameter name :: segments, segment :: path =>
    (matchSegments segments path).map ((name, segment) :: ·)
  | _, _ => none

/-- Where a path leads among the given routes, and its parameters. -/
def findAmong (routes : List Route) (path : List String) : Option (Target × Parameters) :=
  routes.findSome? fun route ↦
    (matchSegments route.segments path).map fun parameters ↦ (route.target, parameters)

/-- Where a path leads, and its parameters. -/
def find? (path : String) : Option (Target × Parameters) :=
  (splitPath path).bind (findAmong all)

end Route

namespace Parameters

/-- The value of a parameter. -/
def get (parameters : Parameters) (name : String) : Option String :=
  (parameters.find? fun parameter ↦ parameter.1 == name).map (·.2)

/-- The parameters decoded, or the name of the first one that cannot be. -/
def decode : Parameters → Except String Parameters
  | [] => .ok []
  | (name, raw) :: rest =>
    match Text.percentDecodeText? raw with
    | none => .error name
    | some value => (decode rest).map ((name, value) :: ·)

end Parameters

/-- The path of a query, each parameter percent-encoded. -/
def queryPath (kind : BackendKind) (parameters : List String) : String :=
  Text.joined "/" ([routePrefix, kind.word] ++ parameters.map Text.percentEncodeText ++
    [querySegment])

end ContextProvider
