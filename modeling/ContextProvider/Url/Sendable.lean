import ContextProvider.Url.Basic

/-!
# URLs that can be sent

What a request is sent to is stricter than a URL. A URL can be sent if its text is not too long and
each of its parts holds no other characters than may stand there. Of the characters that a URL can
have in a part, that rules out some in a domain, where quotation marks, backticks and braces stand
for themselves. The fragment is not sent, but it counts for the length.
-/

namespace ContextProvider.Url

/-- The most bytes of a URL that is sent. -/
def sendableLength : Nat := 65534

/-- A character of a domain that is sent. -/
def isHostChar (c : Char) : Bool :=
  c.isAlphanum ||
    ['!', '$', '&', '\'', '(', ')', '*', '+', ',', '-', '.', ';', '=', '_', '~'].contains c

/-- A character of a user name or a password that is sent. -/
def isCredentialsChar (c : Char) : Bool :=
  isHostChar c || c == '%'

/-- A character of a path that is sent. Some are accepted that a URL always encodes. -/
def isPathChar (c : Char) : Bool :=
  0x20 < c.toNat && !(['#', '<', '>', '?', '\x60'].contains c)

/-- A character of a query that is sent. -/
def isQueryChar (c : Char) : Bool :=
  0x20 < c.toNat && !(['"', '#', '<', '>'].contains c)

/-- A host that can be sent to. Every address can. -/
def Host.isSendable : Host → Bool
  | domain name => name != "" && name.toList.all isHostChar
  | address4 _ => true
  | address6 _ => true

/-- A URL that can be sent. -/
def isSendable (url : Url) : Bool :=
  url.text.utf8ByteSize ≤ sendableLength && url.host.any Host.isSendable &&
    url.username.toList.all isCredentialsChar &&
    url.password.all (fun password ↦ password.toList.all isCredentialsChar) &&
    url.path.all (fun segment ↦ segment.toList.all isPathChar) &&
    url.query.all fun query ↦ query.toList.all isQueryChar

end ContextProvider.Url
