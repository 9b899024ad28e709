import ContextProvider.Service.CommandLine
import ContextProvider.Service.Message

/-!
# The service

The service answers the requests that arrive on its standard input, one after another, on its
standard output, so that a supervisor of sockets can connect it to the configured port number. The
random values of each request are drawn anew. It has no connections to data sources of its own.
-/

namespace ContextProvider.Main

/-- What the help says. -/
def usage : String :=
  "Usage: context-provider [--config FILE] [--port PORT] [--twitter-bearer-token TOKEN] " ++
    "[--weather-api-key KEY]"

/-- The version of the service. -/
def version : String := "context-provider 0.1.0"

/-- Fresh random draws. -/
def freshDraws : IO Random.Draws := do
  let seed ← IO.rand 0 0xFFFFFFFF
  return .ofWords fun position item character ↦
    (mixHash (hash seed) (hash (position, item, character))).toUInt32

/-- A line without its end. -/
def bareLine (line : String) : String :=
  String.ofList (line.toList.filter fun c ↦ c ≠ '\r' ∧ c ≠ '\n')

/-- The lines up to the next empty one. -/
partial def readHead (input : IO.FS.Stream) : IO (List String) := do
  let line ← input.getLine
  if (bareLine line).isEmpty then return []
  return bareLine line :: (← readHead input)

/-- The next bytes, as many as asked for if there are so many. -/
partial def readBytes (input : IO.FS.Stream) (count : Nat) : IO (List UInt8) := do
  if count = 0 then return []
  let chunk ← input.read (USize.ofNat (min count 65536))
  if chunk.isEmpty then return []
  return chunk.toList ++ (← readBytes input (count - chunk.size))

/-- Send a response. -/
def send (output : IO.FS.Stream) (response : ServerResponse) : IO Unit := do
  output.putStr response.message
  output.flush

/-- Answer requests until there are no more; the result is the exit code. -/
partial def serve (arguments : CommandLine.Arguments) (file : String → Option (List UInt8))
    (input output : IO.FS.Stream) : IO UInt32 := do
  match arguments.start file .unreachable (← freshDraws) with
  | .error fault =>
    IO.eprintln ("Error: " ++ fault.context)
    return 1
  | .ok (_, registry) =>
    match ← readHead input with
    | [] => return 0
    | lines =>
      match RequestHead.ofLines? lines with
      | none =>
        send output .refusal
        return 0
      | some head =>
        let body ← readBytes input head.bodyLength
        send output (Server.serve registry (head.request body)).result
        serve arguments file input output

/-- The variables of the environment that count. -/
def readEnvironment : IO (List (String × String)) := do
  let found ← CommandLine.environmentNames.mapM fun (_, name) ↦ do
    return (← IO.getEnv name).map (name, ·)
  return found.filterMap id

/-- The bytes of a file, if it can be read. -/
def readFile? (path : String) : IO (Option (List UInt8)) := do
  try
    return some (← IO.FS.readBinFile path).toList
  catch _ =>
    return none

/-- Serve as the arguments ask; the result is the exit code. -/
def run (arguments : CommandLine.Arguments) : IO UInt32 := do
  let contents ← match arguments.config with
    | some path => readFile? path
    | none => pure none
  serve arguments (fun _ ↦ contents) (← IO.getStdin) (← IO.getStdout)

end ContextProvider.Main

open ContextProvider in
/-- The command line. -/
def main (args : List String) : IO UInt32 := do
  let environment ← Main.readEnvironment
  match CommandLine.read (fun name ↦ environment.lookup name) args with
  | .help =>
    IO.println Main.usage
    return 0
  | .version =>
    IO.println Main.version
    return 0
  | .refused =>
    IO.eprintln Main.usage
    return 2
  | .run arguments => Main.run arguments
