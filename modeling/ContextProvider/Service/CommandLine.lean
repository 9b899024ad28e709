import ContextProvider.Service.Setup

/-!
# The command line

The service takes the path of a configuration file, a port number and the two credentials, by
options that may each be given once; the path and the credentials are also taken from the
environment. A value stands in the next argument, which must not look like an option, or behind an
equals sign, or right behind the letter of a short option. Help and version are shown as soon as
they are asked for, and the first argument that cannot be understood ends everything.
-/

namespace ContextProvider.CommandLine

open Number

/-- An option that takes a value. -/
inductive Setting where
  | config
  | portNumber
  | bearerToken
  | apiKey
  deriving DecidableEq

/-- What an option asks for. -/
inductive Wish where
  | setting (setting : Setting)
  | help
  | version
  deriving DecidableEq

/-- The options by their names. -/
def longOptions : List (String × Wish) :=
  [("config", .setting .config), ("port", .setting .portNumber),
    ("twitter-bearer-token", .setting .bearerToken), ("weather-api-key", .setting .apiKey),
    ("help", .help), ("version", .version)]

/-- The options by their letters. -/
def shortOptions : List (Char × Wish) :=
  [('c', .setting .config), ('p', .setting .portNumber), ('h', .help), ('V', .version)]

/-- The variables of the environment that stand in for options. -/
def environmentNames : List (Setting × String) :=
  [(.config, "NGSI_PROXY_CONFIG"), (.bearerToken, "TWITTER_BEARER_TOKEN"),
    (.apiKey, "WEATHER_API_KEY")]

/-- What the options are set to. -/
structure Arguments where
  config : Option String := none
  overrides : Config.Overrides := {}
  deriving DecidableEq

/-- What a command line comes to. -/
inductive Outcome where
  | run (arguments : Arguments)
  | help
  | version
  | refused
  deriving DecidableEq

/-- An integer in decimal, with or without a sign. -/
def integer? (s : String) : Option Int :=
  let (negative, digits) := takeSign s.toList
  if digits.isEmpty || !digits.all isDigit then none
  else some (if negative then -(naturalOf digits : Int) else naturalOf digits)

/-- A port number: an integer of sixteen bits. -/
def portNumber? (s : String) : Option Nat :=
  (integer? s).bind fun n ↦ if 0 ≤ n ∧ n < 0x10000 then some n.toNat else none

/-- A setting has a value. -/
def Arguments.has (arguments : Arguments) : Setting → Bool
  | .config => arguments.config.isSome
  | .portNumber => arguments.overrides.portNumber.isSome
  | .bearerToken => arguments.overrides.bearerToken.isSome
  | .apiKey => arguments.overrides.apiKey.isSome

/-- The arguments with a value for a setting that has none yet. A path is not empty. -/
def Arguments.put (arguments : Arguments) (setting : Setting) (value : String) :
    Option Arguments :=
  if arguments.has setting then none
  else match setting with
    | .config => if value = "" then none else some { arguments with config := some value }
    | .portNumber => (portNumber? value).map fun n ↦
        { arguments with overrides := { arguments.overrides with portNumber := some n } }
    | .bearerToken =>
      some { arguments with overrides := { arguments.overrides with bearerToken := some value } }
    | .apiKey =>
      some { arguments with overrides := { arguments.overrides with apiKey := some value } }

/-- An argument that looks like an option: a hyphen with something behind it. -/
def isOption : List Char → Bool
  | '-' :: _ :: _ => true
  | _ => false

/-- An option as it is written: what it asks for and the value that is attached to it. A name that
asks for help or the version has no value; behind such a letter nothing else counts. -/
def readOption : List Char → Option (Wish × Option String)
  | '-' :: '-' :: name =>
    let word := String.ofList (name.takeWhile (· ≠ '='))
    match longOptions.lookup word, name.dropWhile (· ≠ '=') with
    | some wish, [] => some (wish, none)
    | some (.setting setting), _ :: value => some (.setting setting, some (String.ofList value))
    | _, _ => none
  | '-' :: letter :: rest =>
    (shortOptions.lookup letter).map fun wish ↦ (wish, match rest with
      | [] => none
      | '=' :: value => some (String.ofList value)
      | value => some (String.ofList value))
  | _ => none

/-- What a list of arguments comes to behind those already read. -/
def readArguments (arguments : Arguments) : List String → Outcome
  | [] => .run arguments
  | argument :: rest =>
    match readOption argument.toList with
    | some (.help, _) => .help
    | some (.version, _) => .version
    | some (.setting setting, some value) =>
      match arguments.put setting value with
      | some arguments => readArguments arguments rest
      | none => .refused
    | some (.setting setting, none) =>
      match rest with
      | [] => .refused
      | value :: more =>
        if isOption value.toList then .refused
        else match arguments.put setting value with
          | some arguments => readArguments arguments more
          | none => .refused
    | none => if argument = "--" ∧ rest = [] then .run arguments else .refused

/-- The arguments with values from the environment for settings that have none. -/
def fromEnvironment (environment : String → Option String) (arguments : Arguments) :
    Option Arguments :=
  environmentNames.foldlM (fun arguments (setting, name) ↦
    match environment name with
    | some value => if arguments.has setting then some arguments else arguments.put setting value
    | none => some arguments) arguments

/-- What a command line comes to in an environment. -/
def read (environment : String → Option String) (arguments : List String) : Outcome :=
  match readArguments {} arguments with
  | .run arguments =>
    match fromEnvironment environment arguments with
    | some arguments => .run arguments
    | none => .refused
  | other => other

/-! ## Starting -/

/-- Why the service does not start. -/
inductive StartFault where
  | file (path : String) (fault : Config.FileFault)
  | setup (fault : SetupFault)

/-- What is said of a fault first. -/
def StartFault.context : StartFault → String
  | file path fault => fault.context path
  | setup fault => fault.context

/-- The configuration that arguments ask for; a file is given by its bytes, if it is there. -/
def Arguments.configuration (arguments : Arguments)
    (file : String → Option (List UInt8)) : Except StartFault Config :=
  let read : Except StartFault Config := match arguments.config with
    | none => .ok {}
    | some path => (Config.ofFile (file path)).mapError (.file path)
  read.map fun config ↦ config.override arguments.overrides

/-- The backends that arguments ask for. -/
def Arguments.start (arguments : Arguments) (file : String → Option (List UInt8))
    (network : Network) (draws : Random.Draws) : Except StartFault (Config × Registry) := do
  let config ← arguments.configuration file
  let registry ← (config.backends network draws).mapError .setup
  return (config, registry)

end ContextProvider.CommandLine
