/-!
# Kinds of backend

There are four kinds of backend, each known by the word that stands for it in routes and
messages.
-/

namespace ContextProvider

/-- A kind of backend. -/
inductive BackendKind where
  | random
  | static
  | twitter
  | weather
  deriving DecidableEq

namespace BackendKind

/-- Every kind, in the order of the routes. -/
def all : List BackendKind := [random, static, twitter, weather]

/-- The word for a kind. -/
def word : BackendKind → String
  | random => "random"
  | static => "static"
  | twitter => "twitter"
  | weather => "weather"

/-- The kind that a word stands for. -/
def ofWord? (s : String) : Option BackendKind :=
  all.find? fun kind ↦ kind.word == s

/-- The text that reports a word of no kind. -/
def unknownMessage (s : String) : String :=
  "Unknown backend: '" ++ s ++ "'"

end BackendKind

end ContextProvider
