import ContextProvider.Url.Address
import ContextProvider.Url.Domain.Basic
import ContextProvider.Url.Encoding

/-!
# Hosts

The host of a special URL is a domain in ASCII or an address: between brackets one of version six,
and a domain that ends in a number is one of version four. The host of any other URL is taken as it
is written, unless it is an address between brackets.
-/

namespace ContextProvider.Url

open Text Number

/-- Why a text is no URL. -/
inductive Fault where
  | emptyHost
  | invalidDomain
  | invalidPort
  | invalidAddress4
  | invalidAddress6
  | invalidHostCharacter
  | missingScheme
  deriving DecidableEq

/-- The text of a fault. -/
def Fault.message : Fault → String
  | emptyHost => "empty host"
  | invalidDomain => "invalid international domain name"
  | invalidPort => "invalid port number"
  | invalidAddress4 => "invalid IPv4 address"
  | invalidAddress6 => "invalid IPv6 address"
  | invalidHostCharacter => "invalid domain character"
  | missingScheme => "relative URL without a base"

/-- A host. -/
inductive Host where
  | domain (name : String)
  | address4 (address : Nat)
  | address6 (pieces : List Nat)
  deriving DecidableEq

/-- A host as it is written. -/
def Host.text : Host → String
  | domain name => name
  | address4 address => address4Text address
  | address6 pieces => address6Text pieces

/-! ## Reading -/

/-- The address between brackets; the opening bracket has been read. -/
def bracketHost (afterBracket : List Char) : Except Fault Host :=
  if afterBracket.getLast? = some ']' then
    match address6? afterBracket.dropLast with
    | some pieces => .ok (.address6 pieces)
    | none => .error .invalidAddress6
  else .error .invalidAddress6

/-- The host of a special URL. -/
def readHost : List Char → Except Fault Host
  | '[' :: rest => bracketHost rest
  | host =>
    match asciiDomain? host with
    | none => .error .invalidDomain
    | some domain =>
      if domain.isEmpty then .error .emptyHost
      else if endsInNumber domain then
        match address4? domain with
        | some address => .ok (.address4 address)
        | none => .error .invalidAddress4
      else .ok (.domain (String.ofList domain))

/-- A character that no host has. -/
def isRefusedInHost (c : Char) : Bool :=
  ['\x00', '\t', '\n', '\r', ' ', '#', '/', ':', '<', '>', '?', '@', '[', '\\', ']', '^',
    '|'].contains c

/-- The host of a URL that is not special. -/
def readPlainHost : List Char → Except Fault Host
  | '[' :: rest => bracketHost rest
  | host =>
    if host.any isRefusedInHost then .error .invalidHostCharacter
    else .ok (.domain (encodeChars keepInHost host))

end ContextProvider.Url
