import ContextProvider.Client.Exchange
import ContextProvider.Client.Status
import ContextProvider.Json.Record
import ContextProvider.Text.Blank
import ContextProvider.Text.Charset

/-!
# Reading replies

A reply with a status in the two hundreds carries a JSON value. Status 429 says that there were
too many requests, whatever the body. Any other status is an error with a message of at most two
hundred characters: the messages in the body, if it is a record of errors that all have one, else
the body itself, or the status line where the body is blank.
-/

namespace ContextProvider.FetchReply

open Json

/-- The most characters of a message that are kept. -/
def messageLimit : Nat := 200

/-- The message of an entry. -/
def entryMessage? (room : Nat) (tree : Tree) : Option String :=
  (tree.record? ["message"] room).bind fun record ↦ record.required "message" Tree.text?

/-- The messages of a body that is a record of errors. -/
def structuredMessages? (body : String) : Option (List String) := do
  let tree ← Tree.ofText? body
  let record ← tree.record? ["errors"] maxNesting
  record.required "errors" (Tree.list? (maxNesting - 1) entryMessage?)

/-- The whole message of a body. -/
def fullMessage (body : String) (status : Nat) : String :=
  match structuredMessages? body with
  | some (message :: more) => Text.joined "; " (message :: more)
  | _ => if Text.isBlank body then "HTTP " ++ statusText status else Text.trim body

/-- The message of a body, as far as it is kept. -/
def errorMessage (body : String) (status : Nat) : String :=
  String.ofList ((fullMessage body status).toList.take messageLimit)

/-- The text of a body that is there. -/
def text (reply : FetchReply) : String :=
  Text.bodyText reply.contentType (reply.body.getD [])

/-- A status in the two hundreds. -/
def isSuccess (reply : FetchReply) : Bool :=
  200 ≤ reply.status && reply.status < 300

/-- The JSON value of a reply. -/
def readJson (reply : FetchReply) : Except FetchError Json :=
  if reply.status = 429 then .error .rateLimited
  else if reply.isSuccess then
    match reply.body.bind ofJsonBytes? with
    | some value => .ok value
    | none => .error (.malformed "error decoding response body")
  else .error (.status reply.status (errorMessage reply.text reply.status))

end ContextProvider.FetchReply
