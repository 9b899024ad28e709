import ContextProvider.Backend.Live
import ContextProvider.Text.Base64
import ContextProvider.Url.Sendable

/-!
# Exchanges with a data source

A client asks its data source by a GET request over HTTP, with or without TLS, if its URL can be
sent. What becomes of a request that is sent is the network's affair: a reply after some time, a
failure, or nothing. Credentials in a URL are sent in a header and not in the URL. What is sent is
part of the exchange.
-/

namespace ContextProvider

/-- A GET request: its URL and its authorization headers. -/
structure FetchRequest where
  url : Url
  authorization : List String
  deriving DecidableEq

/-- A reply: what is left at the end, once redirects have been followed. There is no body if the
connection breaks off before its end. -/
structure FetchReply where
  status : Nat
  contentType : Option String
  body : Option (List UInt8)
  deriving DecidableEq

/-- What becomes of each request. -/
abbrev Network := FetchRequest → Arrival FetchReply

/-- The network that refuses every connection, so that no request arrives anywhere. -/
def Network.unreachable : Network :=
  fun _ ↦ .now (.error (.transport "error sending request" ["Connection refused"]))

/-- An arrival whose answer is read, or refused, when it is there. -/
def Arrival.read (arrival : Arrival α) (reader : α → Except FetchError β) : Arrival β :=
  match arrival with
  | .after milliseconds (.ok answer) => .after milliseconds (reader answer)
  | .after milliseconds (.error error) => .after milliseconds (.error error)
  | .never => .never

/-- What asking comes to: the answer when it arrives, and the requests that were sent for it. -/
structure Exchange (α : Type) where
  arrival : Arrival α
  sent : List FetchRequest

namespace Exchange

/-- A failure before anything is sent. -/
def unsent (error : FetchError) : Exchange α := ⟨.now (.error error), []⟩

/-- An exchange whose answer is read, or refused, when it is there. -/
def read (exchange : Exchange α) (reader : α → Except FetchError β) : Exchange β :=
  ⟨exchange.arrival.read reader, exchange.sent⟩

end Exchange

namespace FetchRequest

/-- The error of a request that cannot be made. It names the URL if that is the cause. -/
def unsendable (place : Option Url) (cause : String) : FetchError :=
  let suffix := match place with
    | none => ""
    | some url => " for url (" ++ url.text ++ ")"
  .transport ("builder error" ++ suffix) [cause]

/-- What is said of a URL that cannot be sent. -/
def urlFault : String := "Parsed Url is not a valid Uri"

/-- A byte that a header may hold. -/
def isHeaderByte (b : UInt8) : Bool :=
  b == 0x09 || (0x20 ≤ b && b != 0x7F)

/-- A text that a header may hold. -/
def isHeaderText (s : String) : Bool :=
  (Text.toUtf8 s).all isHeaderByte

/-- User name and password in a URL, as a header has them. -/
def basicAuthorization? (url : Url) : Option String :=
  (Text.percentDecodeText? url.username).bind fun username ↦
    let password := url.password.bind Text.percentDecodeText?
    if username = "" ∧ password = none then none
    else some ("Basic " ++
      String.ofList (Text.base64 (Text.toUtf8 (username ++ ":" ++ password.getD ""))))

/-- A URL without the credentials that a header has. -/
def bare (url : Url) : Url :=
  if (basicAuthorization? url).isSome then url.withoutCredentials else url

/-- The request for a URL, with the text of a further authorization header if there is one. -/
def make (url : Url) (authorization : Option String) : Except FetchError FetchRequest :=
  if !authorization.all isHeaderText then .error (unsendable none "failed to parse header value")
  else if url.scheme ≠ "http" ∧ url.scheme ≠ "https" then
    .error (unsendable (some (bare url)) "URL scheme is not allowed")
  else if !(bare url).isSendable then .error (unsendable (some (bare url)) urlFault)
  else .ok {
    url := (bare url).withoutFragment
    authorization := (basicAuthorization? url).toList ++ authorization.toList }

/-- The exchange of a request for what the network gives. -/
def send (request : FetchRequest) (network : Network) : Exchange FetchReply :=
  ⟨network request, [request]⟩

/-- The answer to a request, if there is one to send, read from the reply. -/
def exchange (network : Network) (request : Except FetchError FetchRequest)
    (reader : FetchReply → Except FetchError α) : Exchange α :=
  match request with
  | .error error => .unsent error
  | .ok request => (request.send network).read reader

end FetchRequest

end ContextProvider
