import ContextProvider.Url.Basic

/-!
# Reading URLs

Controls and spaces around a URL are dropped, and tabs and line ends anywhere. A special scheme is
followed by an authority however many slashes there are in front of it, and takes backslashes for
slashes; the scheme of files has a host only behind two slashes; any other scheme has an authority
behind two slashes, and without a slash a text in place of a path, to which no segments can be
added.
-/

namespace ContextProvider.Url

open Text Number

/-- Why a text is no URL to which segments can be added. -/
inductive BaseFault where
  | invalid (fault : Fault)
  | notABase (text : String)
  deriving DecidableEq

/-- The text of a fault. -/
def BaseFault.message : BaseFault → String
  | invalid fault => "Invalid URL: " ++ fault.message
  | notABase text => "URL cannot be a base: " ++ text

/-- A slash in a URL, which may be a backslash if the URL is special. -/
def isSlash (special : Bool) (c : Char) : Bool :=
  c == '/' || (special && c == '\\')

/-- A character behind which neither authority nor path go on. -/
def isPathEnd (c : Char) : Bool :=
  c == '?' || c == '#'

/-! ## Scheme -/

/-- A character of a scheme. -/
def isSchemeChar (c : Char) : Bool :=
  c.isAlphanum || c == '+' || c == '-' || c == '.'

/-- The scheme in small letters, and what follows its colon. -/
def splitScheme? (s : List Char) : Option (String × List Char) :=
  match s.takeWhile isSchemeChar, s.dropWhile isSchemeChar with
  | c :: rest, ':' :: after =>
    if c.isAlpha then some (String.ofList ((c :: rest).map Char.toLower), after) else none
  | _, _ => none

/-! ## Authority -/

/-- User name and password, host and port number. -/
structure Authority where
  username : String
  password : Option String
  host : Option Host
  portNumber : Option Nat

/-- The text before and after the last `@`. -/
def splitAtLast? (s : List Char) : Option (List Char × List Char) :=
  match s.reverse.dropWhile (· ≠ '@') with
  | [] => none
  | _ :: before => some (before.reverse, (s.reverse.takeWhile (· ≠ '@')).reverse)

/-- User name and password; an empty password counts as none. -/
def readCredentials (s : List Char) : String × Option String :=
  let password := (s.dropWhile (· ≠ ':')).drop 1
  (encodeChars keepInCredentials (s.takeWhile (· ≠ ':')),
    if password.isEmpty then none else some (encodeChars keepInCredentials password))

/-- The text of a host, and what follows it from the first colon outside brackets on. -/
def splitHost (inBrackets : Bool) : List Char → List Char × List Char
  | [] => ([], [])
  | c :: rest =>
    if c = ':' ∧ !inBrackets then ([], c :: rest)
    else
      let inside := if c = '[' then true else if c = ']' then false else inBrackets
      let (host, after) := splitHost inside rest
      (c :: host, after)

/-- A port number, unless it is the usual one, and what follows its digits. -/
def readPort (scheme : String) (s : List Char) : Except Fault (Option Nat × List Char) :=
  let digits := s.takeWhile isDigit
  let after := s.dropWhile isDigit
  if 65536 ≤ naturalOf digits then .error .invalidPort
  else if after.isEmpty || after.head? == some '\\' then
    .ok (if digits.isEmpty || usualPort? scheme == some (naturalOf digits) then none
      else some (naturalOf digits), after)
  else .error .invalidPort

/-- Host and port number, and what follows them. -/
def readHostAndPort (scheme : String) (s : List Char) :
    Except Fault ((Option Host × Option Nat) × List Char) := do
  let (hostChars, after) := splitHost false s
  if hostChars.isEmpty && (isSpecialScheme scheme || !after.isEmpty) then throw .emptyHost
  let host ← if isSpecialScheme scheme then readHost hostChars else readPlainHost hostChars
  let (portNumber, rest) ← match after with
    | ':' :: portChars => readPort scheme portChars
    | other => .ok (none, other)
  return ((if hostChars.isEmpty then none else some host, portNumber), rest)

/-- The authority that a text spells, and what is left of the text; what follows the text is
given too. -/
def readAuthority (scheme : String) (s following : List Char) :
    Except Fault (Authority × List Char) :=
  match splitAtLast? s with
  | none => do
    let ((host, portNumber), rest) ← readHostAndPort scheme s
    return (⟨"", none, host, portNumber⟩, rest)
  | some (credentials, place) => do
    if credentials.isEmpty && place.isEmpty && !following.isEmpty then throw .emptyHost
    let (username, password) := readCredentials credentials
    let ((host, portNumber), rest) ← readHostAndPort scheme place
    if host.isNone && (username != "" || password.isSome) then throw .emptyHost
    return (⟨username, password, host, portNumber⟩, rest)

/-! ## Path, query and fragment -/

/-- The path of segments with slashes between them. -/
def readSegments (s : List Char) : List String :=
  resolve ((piecesChars '/' s).map (encodeChars keepInPath))

/-- The path that a text spells. -/
def readPath (special : Bool) (s : List Char) : List String :=
  let slashed := s.map fun c ↦ if isSlash special c then '/' else c
  match slashed with
  | [] => if special then [""] else []
  | '/' :: rest => readSegments rest
  | other => readSegments other

/-- The URL of a scheme and an authority with the path, query and fragment that a text spells. -/
def withRest (scheme : String) (authority : Authority) (s : List Char) : Url :=
  let special := isSpecialScheme scheme
  let afterPath := s.dropWhile fun c ↦ !isPathEnd c
  let query := match afterPath with
    | '?' :: rest => some (encodeChars (keepInQuery special) (rest.takeWhile (· ≠ '#')))
    | _ => none
  let fragment := match afterPath.dropWhile (· ≠ '#') with
    | _ :: rest => some (encodeChars keepInFragment rest)
    | [] => none
  { scheme, query, fragment
    username := authority.username
    password := authority.password
    host := authority.host
    portNumber := authority.portNumber
    path := readPath special (s.takeWhile fun c ↦ !isPathEnd c) }

/-- No authority. -/
def noAuthority : Authority := ⟨"", none, none, none⟩

/-- The URL whose authority a text begins with. -/
def readHierarchical (scheme : String) (s : List Char) : Except Fault Url := do
  let stops c := isSlash (isSpecialScheme scheme) c || isPathEnd c
  let after := s.dropWhile fun c ↦ !stops c
  let (authority, rest) ← readAuthority scheme (s.takeWhile fun c ↦ !stops c) after
  return withRest scheme authority (rest ++ after)

/-! ## Files -/

/-- A letter for a drive, which is never a host. -/
def isDriveLetter : List Char → Bool
  | [letter, mark] => letter.isAlpha && (mark == ':' || mark == '|')
  | _ => false

/-- The host of a file, of which `localhost` is none. -/
def readFileHost (s : List Char) : Except Fault (Option Host) :=
  if s.isEmpty then .ok none
  else match readHost s with
    | .error fault => .error fault
    | .ok host => .ok (if host = .domain "localhost" then none else some host)

/-- The URL of a file without the empty segments in front of its path. -/
def dropEmptyFront (url : Url) : Url :=
  { url with path :=
      match url.path.dropWhile (· == "") with
      | [] => [""]
      | path => path }

/-- The URL of a file. -/
def readFile (s : List Char) : Except Fault Url :=
  match s with
  | first :: second :: rest =>
    if isSlash true first && isSlash true second then
      let stops c := isSlash true c || isPathEnd c
      let hostChars := rest.takeWhile fun c ↦ !stops c
      if isDriveLetter hostChars then
        .ok (dropEmptyFront (withRest fileScheme noAuthority rest))
      else do
        let host ← readFileHost hostChars
        return dropEmptyFront (withRest fileScheme ⟨"", none, host, none⟩
          (rest.dropWhile fun c ↦ !stops c))
    else .ok (dropEmptyFront (withRest fileScheme noAuthority s))
  | _ => .ok (dropEmptyFront (withRest fileScheme noAuthority s))

/-! ## Whole URLs -/

/-- A control or a space. -/
def isControlOrSpace (c : Char) : Bool :=
  c.toNat ≤ 0x20

/-- The characters of a text that count in a URL. -/
def significantChars (s : String) : List Char :=
  let trimmed := ((s.toList.dropWhile isControlOrSpace).reverse.dropWhile isControlOrSpace).reverse
  dropLineBlanks trimmed

/-- The URL that a text spells, if segments can be added to it. -/
def ofText (s : String) : Except BaseFault Url :=
  match splitScheme? (significantChars s) with
  | none => .error (.invalid .missingScheme)
  | some (scheme, rest) =>
    if scheme = fileScheme then (readFile rest).mapError .invalid
    else if isSpecialScheme scheme then
      (readHierarchical scheme (rest.dropWhile (isSlash true))).mapError .invalid
    else match rest with
      | '/' :: '/' :: authority => (readHierarchical scheme authority).mapError .invalid
      | '/' :: path => .ok (withRest scheme noAuthority ('/' :: path))
      | _ => .error (.notABase s)

end ContextProvider.Url
