import ContextProvider.Toml.Document
import ContextProvider.Toml.Moment
import ContextProvider.Toml.Numeral
import ContextProvider.Toml.Quoted

/-!
# Reading TOML

A document is read line by line: blank lines, headers in brackets, and keys with values, each
perhaps with a comment behind it. A list may extend over several lines, an inline table may not.
Lists and inline tables can be nested, and keys dotted, up to a limit.
-/

namespace ContextProvider.Toml

/-- How many levels of lists and inline tables, and how many parts of a key, are too many. -/
def tooDeep : Nat := 80

/-- What follows tabs and spaces in front. -/
def skipSpace (s : List Char) : List Char :=
  s.dropWhile isBlank

/-! ## Keys -/

/-- A character of a key without quotes. -/
def isKeyChar (c : Char) : Bool :=
  c.isAlphanum || c == '-' || c == '_'

/-- A part of a key, and what follows it. -/
def readKeyPart (s : List Char) : Option (String × List Char) :=
  match s with
  | '"' :: rest => (basicChars [] rest).map fun (read, after) ↦ (String.ofList read, after)
  | '\'' :: rest => (literalChars [] rest).map fun (read, after) ↦ (String.ofList read, after)
  | _ =>
    let chars := s.takeWhile isKeyChar
    if chars.isEmpty then none else some (String.ofList chars, s.dropWhile isKeyChar)

/-- The parts of a key with blanks around them, and what follows them; the parts read so far are
given in reverse, and the fuel bounds the number of parts. -/
def readKeyParts (read : List String) : Nat → List Char → Option (List String × List Char)
  | 0, _ => none
  | fuel + 1, s =>
    match readKeyPart (skipSpace s) with
    | none => none
    | some (part, rest) =>
      match skipSpace rest with
      | '.' :: more => readKeyParts (part :: read) fuel more
      | after => some ((part :: read).reverse, after)

/-- A key as the parts in front and the last one, and what follows it. -/
def readKey (s : List Char) : Option ((List String × String) × List Char) := do
  let (parts, after) ← readKeyParts [] (tooDeep - 1) s
  let last ← parts.getLast?
  return ((parts.dropLast, last), after)

/-! ## Values -/

/-- What follows blanks, comments and line ends; the fuel bounds the number of lines. -/
def skipLines : Nat → List Char → List Char
  | 0, s => s
  | fuel + 1, s =>
    match skipSpace s with
    | '\n' :: rest => skipLines fuel rest
    | '\r' :: '\n' :: rest => skipLines fuel rest
    | '#' :: rest =>
      match rest.dropWhile isText with
      | '\n' :: more => skipLines fuel more
      | '\r' :: '\n' :: more => skipLines fuel more
      | more => more
    | other => other

/-- What follows blanks, comments and line ends. -/
def skipToItem (s : List Char) : List Char :=
  skipLines (s.length + 1) s

/-- What follows a word in front. -/
def afterWord? (word : List Char) (s : List Char) : Option (List Char) :=
  if word.isPrefixOf s then some (s.drop word.length) else none

/-- A boolean, a moment or a number, and what follows it. -/
def readPlain (s : List Char) : Option (Toml × List Char) :=
  match afterWord? "true".toList s with
  | some after => some (.boolean true, after)
  | none =>
    match afterWord? "false".toList s with
    | some after => some (.boolean false, after)
    | none =>
      match readMoment s with
      | some (text, after) => some (.datetime text, after)
      | none => readNumber s

/-- The table of members put together. -/
def tableOf (members : Members) : Toml :=
  .table (partsToToml members)

mutual

/-- A value, and what follows it. The fuel bounds the number of values begun; the room is the
number of levels that may still be opened. -/
def readValue : Nat → Nat → List Char → Option (Toml × List Char)
  | 0, _, _ => none
  | fuel + 1, room, s =>
    match s with
    | [] => none
    | c :: rest =>
      if c = '"' ∨ c = '\'' then
        (readString s).map fun (text, after) ↦ (.string text, after)
      else if c = '[' then
        if room = 0 then none else readItems fuel (room - 1) [] rest
      else if c = '\x7b' then
        if room = 0 then none
        else match skipSpace rest with
          | '\x7d' :: after => some (.table [], after)
          | _ => readMembers fuel (room - 1) [] rest
      else readPlain s

/-- The items of a list up to its end, after those already read in reverse. -/
def readItems : Nat → Nat → List Toml → List Char → Option (Toml × List Char)
  | 0, _, _, _ => none
  | fuel + 1, room, read, s =>
    match skipToItem s with
    | ']' :: after => some (.array read.reverse, after)
    | item =>
      match readValue fuel room item with
      | none => none
      | some (value, rest) =>
        match skipToItem rest with
        | ',' :: more => readItems fuel room (value :: read) more
        | ']' :: after => some (.array (value :: read).reverse, after)
        | _ => none

/-- The members of an inline table up to its end, added to those already read. -/
def readMembers : Nat → Nat → Members → List Char → Option (Toml × List Char)
  | 0, _, _, _ => none
  | fuel + 1, room, read, s =>
    match readKey s with
    | some ((path, key), '=' :: afterKey) =>
      match readValue fuel room (skipSpace afterKey) with
      | none => none
      | some (value, rest) =>
        match Members.addDotted key value path read with
        | none => none
        | some members =>
          match skipSpace rest with
          | ',' :: more => readMembers fuel room members more
          | '\x7d' :: after => some (tableOf members, after)
          | _ => none
    | _ => none

end

/-! ## Lines -/

/-- What follows the end of a line, in front of which there may be blanks and a comment. -/
def endLine? (s : List Char) : Option (List Char) :=
  let line := skipSpace s
  let afterComment := match line with
    | '#' :: rest => rest.dropWhile isText
    | _ => line
  match afterComment with
  | [] => some []
  | '\n' :: rest => some rest
  | '\r' :: '\n' :: rest => some rest
  | _ => none

/-- A header behind its opening brackets, and what follows its closing ones. -/
def readHeader (isItem : Bool) (draft : Draft) (s : List Char) : Option (Draft × List Char) := do
  let ((path, key), rest) ← readKey s
  let after ← match isItem, rest with
    | true, ']' :: ']' :: after => some after
    | false, ']' :: after => some after
    | _, _ => none
  let draft ← draft.addHeader isItem path key
  return (draft, after)

/-- A key with its value, and what follows them. -/
def readKeyValue (draft : Draft) (s : List Char) : Option (Draft × List Char) :=
  match readKey s with
  | some ((path, key), '=' :: afterKey) => do
    let (value, after) ← readValue (2 * afterKey.length + 2) (tooDeep - 1) (skipSpace afterKey)
    let draft ← draft.addValue path key value
    return (draft, after)
  | _ => none

/-- The draft behind the lines of a text; the fuel bounds their number. -/
def readLines : Nat → Draft → List Char → Option Draft
  | 0, _, _ => none
  | fuel + 1, draft, s =>
    match skipSpace s with
    | [] => some draft
    | '\n' :: rest => readLines fuel draft rest
    | '\r' :: '\n' :: rest => readLines fuel draft rest
    | '#' :: rest =>
      match endLine? ('#' :: rest) with
      | some after => readLines fuel draft after
      | none => none
    | line =>
      let read := match line with
        | '[' :: '[' :: rest => readHeader true draft rest
        | '[' :: rest => readHeader false draft rest
        | _ => readKeyValue draft line
      match read with
      | none => none
      | some (draft, rest) =>
        match endLine? rest with
        | some after => readLines fuel draft after
        | none => none

/-- The document that a text spells; a byte order mark in front does not count. -/
def ofText? (s : String) : Option Toml :=
  let chars := match s.toList with
    | '\uFEFF' :: rest => rest
    | chars => chars
  (readLines (chars.length + 1) .empty chars).map Draft.toToml

end ContextProvider.Toml
