import ContextProvider.Number.Radix

/-!
# Strings in TOML

A basic string stands between quotation marks and has escapes, a literal string between
apostrophes and has none. Three marks in a row begin and end a string of several lines: a line end
right behind the opening marks does not count, every other one counts as a line feed, and one or
two marks may stand anywhere, also right in front of the closing ones. In a basic string of
several lines a backslash at the end of a line joins it to the next character that is not blank.
-/

namespace ContextProvider.Toml

open Number

/-- A tab or a space. -/
def isBlank (c : Char) : Bool :=
  c = '\t' || c = ' '

/-- A tab or a character that is no control. -/
def isText (c : Char) : Bool :=
  c = '\t' || (0x20 ≤ c.toNat && c.toNat ≠ 0x7F)

/-- The character that a letter behind a backslash stands for. -/
def shortEscape? (c : Char) : Option Char :=
  if c = 'b' then some '\x08'
  else if c = 't' then some '\t'
  else if c = 'n' then some '\n'
  else if c = 'f' then some '\x0c'
  else if c = 'r' then some '\r'
  else if c = '"' ∨ c = '\\' then some c
  else none

/-- The character whose number hexadecimal digits spell. -/
def codeEscape? (digits : List Char) : Option Char :=
  (radixValue? 16 digits).bind fun n ↦ if h : n.isValidChar then some (Char.ofNatAux n h) else none

/-- The text of a basic string of one line behind its opening mark, and what follows the closing
one; the characters read so far are given in reverse. -/
def basicChars (read : List Char) : List Char → Option (List Char × List Char)
  | '"' :: rest => some (read.reverse, rest)
  | '\\' :: 'u' :: a :: b :: c :: d :: rest =>
    match codeEscape? [a, b, c, d] with
    | some character => basicChars (character :: read) rest
    | none => none
  | '\\' :: 'U' :: a :: b :: c :: d :: e :: f :: g :: h :: rest =>
    match codeEscape? [a, b, c, d, e, f, g, h] with
    | some character => basicChars (character :: read) rest
    | none => none
  | '\\' :: c :: rest =>
    match shortEscape? c with
    | some character => basicChars (character :: read) rest
    | none => none
  | c :: rest => if isText c then basicChars (c :: read) rest else none
  | [] => none

/-- The text of a literal string of one line behind its opening mark, and what follows the closing
one. -/
def literalChars (read : List Char) : List Char → Option (List Char × List Char)
  | '\'' :: rest => some (read.reverse, rest)
  | c :: rest => if isText c then literalChars (c :: read) rest else none
  | [] => none

/-- The text read so far with up to two marks that stand right in front of the closing ones. -/
def closeLines (mark : Char) (read : List Char) : List Char → List Char × List Char
  | c :: d :: rest =>
    if c = mark ∧ d = mark then ((mark :: mark :: read).reverse, rest)
    else if c = mark then ((mark :: read).reverse, d :: rest)
    else (read.reverse, c :: d :: rest)
  | [c] => if c = mark then ((mark :: read).reverse, []) else (read.reverse, [c])
  | [] => (read.reverse, [])

/-- What follows the tabs and spaces in front begins with a line end. -/
def endsLine (s : List Char) : Bool :=
  match s.dropWhile isBlank with
  | '\n' :: _ => true
  | '\r' :: '\n' :: _ => true
  | _ => false

/-- The text of a basic string of several lines, and what follows it; `joining` while a joined
line is being looked for. -/
def basicLines (joining : Bool) (read : List Char) : List Char → Option (List Char × List Char)
  | '\r' :: '\n' :: rest => basicLines joining (if joining then read else '\n' :: read) rest
  | '\n' :: rest => basicLines joining (if joining then read else '\n' :: read) rest
  | '"' :: '"' :: '"' :: rest => some (closeLines '"' read rest)
  | '\\' :: 'u' :: a :: b :: c :: d :: rest =>
    match codeEscape? [a, b, c, d] with
    | some character => basicLines false (character :: read) rest
    | none => none
  | '\\' :: 'U' :: a :: b :: c :: d :: e :: f :: g :: h :: rest =>
    match codeEscape? [a, b, c, d, e, f, g, h] with
    | some character => basicLines false (character :: read) rest
    | none => none
  | '\\' :: c :: rest =>
    if endsLine (c :: rest) then basicLines true read (c :: rest)
    else match shortEscape? c with
      | some character => basicLines false (character :: read) rest
      | none => none
  | c :: rest =>
    if joining && isBlank c then basicLines true read rest
    else if isText c then basicLines false (c :: read) rest
    else none
  | [] => none

/-- The text of a literal string of several lines, and what follows it. -/
def literalLines (read : List Char) : List Char → Option (List Char × List Char)
  | '\r' :: '\n' :: rest => literalLines ('\n' :: read) rest
  | '\n' :: rest => literalLines ('\n' :: read) rest
  | '\'' :: '\'' :: '\'' :: rest => some (closeLines '\'' read rest)
  | c :: rest => if isText c then literalLines (c :: read) rest else none
  | [] => none

/-- What follows one line end in front, if there is one. -/
def dropLineEnd : List Char → List Char
  | '\n' :: rest => rest
  | '\r' :: '\n' :: rest => rest
  | s => s

/-- A string of any kind, and what follows it. -/
def readString : List Char → Option (String × List Char)
  | '"' :: '"' :: '"' :: rest => (basicLines false [] (dropLineEnd rest)).map text
  | '\'' :: '\'' :: '\'' :: rest => (literalLines [] (dropLineEnd rest)).map text
  | '"' :: rest => (basicChars [] rest).map text
  | '\'' :: rest => (literalChars [] rest).map text
  | _ => none
where
  /-- The characters of a string as its text. -/
  text (read : List Char × List Char) : String × List Char :=
    (String.ofList read.1, read.2)

end ContextProvider.Toml
