import ContextProvider.Client.Status
import ContextProvider.Route.Server

/-!
# Messages on a connection

A request arrives as a head of lines and a body. The first line has the method, the target and the
version of the protocol; each further line is a header with its name in front of a colon; the body
has as many bytes as the head states. A head that cannot be understood is refused, and so is a
body that comes in chunks. A response goes out in the same form, with the length of its body.
-/

namespace ContextProvider

open Number

/-- The head of a request: what is asked for, and how many bytes of a body follow. -/
structure RequestHead where
  method : String
  target : String
  bodyLength : Nat
  deriving DecidableEq

namespace RequestHead

/-- A header: its name in small letters, and its value without the blanks around it. -/
def header? (line : String) : Option (String × String) :=
  match line.toList.takeWhile (· ≠ ':'), line.toList.dropWhile (· ≠ ':') with
  | c :: name, _ :: value =>
    some (String.ofList ((c :: name).map Char.toLower),
      String.ofList (Text.trimChars value))
  | _, _ => none

/-- The length that digits state. -/
def length? (digits : String) : Option Nat :=
  if digits ≠ "" ∧ digits.toList.all isDigit then some (naturalOf digits.toList) else none

/-- The length of the body that headers announce; where they are silent there is none. -/
def bodyLength? (headers : List (String × String)) : Option Nat :=
  if (headers.lookup "transfer-encoding").isSome then none
  else match headers.lookup "content-length" with
    | none => some 0
    | some digits => length? digits

/-- The head that lines spell. -/
def ofLines? : List String → Option RequestHead
  | [] => none
  | first :: rest =>
    match Text.pieces ' ' first with
    | [method, target, version] =>
      if version = "HTTP/1.1" ∨ version = "HTTP/1.0" then do
        let headers ← rest.mapM header?
        let bodyLength ← bodyLength? headers
        return { method, target, bodyLength }
      else none
    | _ => none

/-- The request of a head and a body. -/
def request (head : RequestHead) (body : List UInt8) : ServerRequest :=
  ⟨head.method, head.target, body⟩

end RequestHead

namespace ServerResponse

/-- The answer to a head that is refused. -/
def refusal : ServerResponse := Server.bare 400 []

/-- The end of a line. -/
def lineEnd : String := "\r\n"

/-- The lines of the head of a response. -/
def headLines (response : ServerResponse) : List String :=
  ("HTTP/1.1 " ++ statusText response.status) ::
    response.headers.map (fun header ↦ header.1 ++ ": " ++ header.2) ++
    ["content-length: " ++ String.ofList (Json.natChars response.body.utf8ByteSize)]

/-- A response as it goes out. -/
def message (response : ServerResponse) : String :=
  String.join (response.headLines.map (· ++ lineEnd)) ++ lineEnd ++ response.body

end ServerResponse

end ContextProvider
