import ContextProvider.Json.Basic
import ContextProvider.Number.Radix
import ContextProvider.Text.Utf8

/-!
# Reading JSON

A text is first read as a tree, which settles the grammar and nothing else: it keeps repeated
keys, numbers as written, and strings that are well quoted but stand for no text, because a
surrogate escape has no partner or a byte is malformed. A value or a record is then taken out of
the tree. So a part of a text that nobody asks for has to follow the grammar, but may be nested
without bound, hold any number and any escape.

The grammar is strict: blanks are space, tab, line feed and carriage return, nothing follows the
value, and controls inside strings are refused.
-/

namespace ContextProvider.Json

open Text Number

/-- The grammatical structure of a JSON text. -/
inductive Tree where
  | null
  | bool (value : Bool)
  | number (literal : Literal)
  | string (content : Option String)
  | array (items : List Tree)
  | object (members : List (Option String × Tree))

/-! ## Strings -/

/-- A part of a quoted string: a character, the code of an escape with four hexadecimal digits,
or a malformed byte. -/
inductive Piece where
  | char (c : Char)
  | code (unit : Nat)
  | stray

/-- The code that four hexadecimal digits spell. -/
def hexCode? (a b c d : Symbol) : Option Nat := do
  let a ← a.bind hexDigit?
  let b ← b.bind hexDigit?
  let c ← c.bind hexDigit?
  let d ← d.bind hexDigit?
  return ((a * 16 + b) * 16 + c) * 16 + d

/-- The character that a one-letter escape stands for. -/
def shortEscape? (c : Char) : Option Char :=
  if c = '"' ∨ c = '\\' ∨ c = '/' then some c
  else if c = 'b' then some '\x08'
  else if c = 'f' then some '\x0c'
  else if c = 'n' then some '\n'
  else if c = 'r' then some '\r'
  else if c = 't' then some '\t'
  else none

/-- The pieces up to the closing quote, after those already read in reverse, and what follows. -/
def readPieces (read : List Piece) : List Symbol → Option (List Piece × List Symbol)
  | [] => none
  | none :: rest => readPieces (.stray :: read) rest
  | some c :: rest =>
    if c = '"' then some (read.reverse, rest)
    else if c = '\\' then
      match rest with
      | some 'u' :: h₁ :: h₂ :: h₃ :: h₄ :: more =>
        match hexCode? h₁ h₂ h₃ h₄ with
        | some unit => readPieces (.code unit :: read) more
        | none => none
      | some e :: more =>
        match shortEscape? e with
        | some character => readPieces (.char character :: read) more
        | none => none
      | _ => none
    else if c.toNat < 0x20 then none
    else readPieces (.char c :: read) rest

/-- A code that needs the code after it to make a character. -/
def isLeadingSurrogate (unit : Nat) : Bool :=
  0xD800 ≤ unit && unit < 0xDC00

/-- A code that completes the code before it. -/
def isTrailingSurrogate (unit : Nat) : Bool :=
  0xDC00 ≤ unit && unit < 0xE000

/-- The characters of pieces, after those already found in reverse; `none` where a piece stands
for no character. -/
def pieceChars (found : List Char) : List Piece → Option (List Char)
  | [] => some found.reverse
  | .char c :: rest => pieceChars (c :: found) rest
  | .stray :: _ => none
  | .code unit :: rest =>
    if isTrailingSurrogate unit then none
    else if isLeadingSurrogate unit then
      match rest with
      | .code partner :: more =>
        if isTrailingSurrogate partner then
          pieceChars
            (Char.ofNat (0x10000 + (unit - 0xD800) * 0x400 + (partner - 0xDC00)) :: found) more
        else none
      | _ => none
    else pieceChars (Char.ofNat unit :: found) rest

/-- The text that pieces stand for. -/
def pieceText (pieces : List Piece) : Option String :=
  (pieceChars [] pieces).map String.ofList

/-! ## Numbers -/

/-- The digits in front, after those already read in reverse, and what follows. -/
def takeDigits (read : List Char) : List Symbol → List Char × List Symbol
  | some c :: rest =>
    if isDigit c then takeDigits (c :: read) rest else (read.reverse, some c :: rest)
  | rest => (read.reverse, rest)

/-- Whether a minus is in front, and what follows it. -/
def readMinus : List Symbol → Bool × List Symbol
  | some '-' :: rest => (true, rest)
  | rest => (false, rest)

/-- The fraction in front, if a point begins one, and what follows. -/
def readFraction : List Symbol → Option (Option (List Char) × List Symbol)
  | some '.' :: rest =>
    let (digits, after) := takeDigits [] rest
    if digits.isEmpty then none else some (some digits, after)
  | rest => some (none, rest)

/-- What follows a plus in front, or everything if there is none. -/
def skipPlus : List Symbol → List Symbol
  | some '+' :: rest => rest
  | rest => rest

/-- The exponent in front, if its mark begins one, and what follows. -/
def readExponent : List Symbol → Option (Option (Bool × List Char) × List Symbol)
  | some mark :: rest =>
    if mark = 'e' ∨ mark = 'E' then
      let (below, unsigned) := readMinus rest
      let (digits, after) := takeDigits [] (if below then unsigned else skipPlus unsigned)
      if digits.isEmpty then none else some (some (below, digits), after)
    else some (none, some mark :: rest)
  | rest => some (none, rest)

/-- A number, and what follows: no superfluous zero in front, and digits after a point and in an
exponent. -/
def readLiteral (s : List Symbol) : Option (Literal × List Symbol) := do
  let (negative, unsigned) := readMinus s
  let (whole, afterWhole) := takeDigits [] unsigned
  if whole.isEmpty || (whole.head? == some '0' && whole.length != 1) then none
  else
    let (fraction, afterFraction) ← readFraction afterWhole
    let (exponent, after) ← readExponent afterFraction
    return ({ negative, whole, fraction, exponent }, after)

/-! ## Trees -/

/-- A blank between tokens. -/
def isTokenBlank (s : Symbol) : Bool :=
  s == some ' ' || s == some '\n' || s == some '\r' || s == some '\t'

/-- What follows the blanks in front. -/
def skipBlanks (s : List Symbol) : List Symbol :=
  s.dropWhile isTokenBlank

/-- What follows the given characters, if they stand in front. -/
def afterWord? : List Char → List Symbol → Option (List Symbol)
  | [], s => some s
  | c :: word, some d :: rest => if c = d then afterWord? word rest else none
  | _, _ => none

mutual

/-- A value, and what follows; the fuel bounds the number of values begun. -/
def readTree : Nat → List Symbol → Option (Tree × List Symbol)
  | 0, _ => none
  | fuel + 1, s =>
    match skipBlanks s with
    | some c :: rest =>
      if c = '"' then
        (readPieces [] rest).map fun (pieces, after) ↦ (.string (pieceText pieces), after)
      else if c = '[' then
        match skipBlanks rest with
        | some ']' :: after => some (.array [], after)
        | items => readItems fuel [] items
      else if c = '\x7b' then
        match skipBlanks rest with
        | some '\x7d' :: after => some (.object [], after)
        | members => readMembers fuel [] members
      else if c = 'n' then (afterWord? "ull".toList rest).map fun after ↦ (.null, after)
      else if c = 't' then (afterWord? "rue".toList rest).map fun after ↦ (.bool true, after)
      else if c = 'f' then (afterWord? "alse".toList rest).map fun after ↦ (.bool false, after)
      else (readLiteral (some c :: rest)).map fun (literal, after) ↦ (.number literal, after)
    | _ => none

/-- The items of an array up to its end, after those already read in reverse. -/
def readItems : Nat → List Tree → List Symbol → Option (Tree × List Symbol)
  | 0, _, _ => none
  | fuel + 1, read, s =>
    match readTree fuel s with
    | none => none
    | some (item, rest) =>
      match skipBlanks rest with
      | some ',' :: more => readItems fuel (item :: read) more
      | some ']' :: after => some (.array (item :: read).reverse, after)
      | _ => none

/-- The members of an object up to its end, after those already read in reverse. -/
def readMembers : Nat → List (Option String × Tree) → List Symbol → Option (Tree × List Symbol)
  | 0, _, _ => none
  | fuel + 1, read, s =>
    match skipBlanks s with
    | some '"' :: quoted =>
      match readPieces [] quoted with
      | none => none
      | some (key, afterKey) =>
        match skipBlanks afterKey with
        | some ':' :: value =>
          match readTree fuel value with
          | none => none
          | some (tree, rest) =>
            match skipBlanks rest with
            | some ',' :: more => readMembers fuel ((pieceText key, tree) :: read) more
            | some '\x7d' :: after => some (.object ((pieceText key, tree) :: read).reverse, after)
            | _ => none
        | _ => none
    | _ => none

end

/-- The tree of a whole text. -/
def Tree.ofSymbols? (s : List Symbol) : Option Tree :=
  match readTree (2 * s.length + 2) s with
  | some (tree, rest) => if (skipBlanks rest).isEmpty then some tree else none
  | none => none

/-- The tree of a whole byte text. -/
def Tree.ofBytes? (bytes : List UInt8) : Option Tree :=
  ofSymbols? (symbols bytes)

/-- The tree of a whole text. -/
def Tree.ofText? (s : String) : Option Tree :=
  ofSymbols? (s.toList.map some)

/-! ## Values -/

/-- How deeply arrays and objects that are kept may be nested. -/
def maxNesting : Nat := 127

mutual

/-- The value of a tree with the given room for nesting. -/
def Tree.toJson? : Nat → Tree → Option Json
  | _, .null => some .null
  | _, .bool value => some (.bool value)
  | _, .number literal => literal.value?.map .number
  | _, .string content => content.map .string
  | 0, .array _ => none
  | 0, .object _ => none
  | room + 1, .array items => (Tree.itemValues? room items).map .array
  | room + 1, .object members =>
    (Tree.memberValues? room members).map fun values ↦ .object (Fields.ofMembers values)

/-- The values of several trees. -/
def Tree.itemValues? : Nat → List Tree → Option (List Json)
  | _, [] => some []
  | room, item :: rest => do
    let value ← Tree.toJson? room item
    let values ← Tree.itemValues? room rest
    return value :: values

/-- The keys and values of several members. -/
def Tree.memberValues? : Nat → List (Option String × Tree) → Option (List (String × Json))
  | _, [] => some []
  | room, (key, tree) :: rest => do
    let key ← key
    let value ← Tree.toJson? room tree
    let values ← Tree.memberValues? room rest
    return (key, value) :: values

end

/-- The value of a whole byte text. -/
def ofJsonBytes? (bytes : List UInt8) : Option Json :=
  (Tree.ofBytes? bytes).bind (Tree.toJson? maxNesting)

end ContextProvider.Json
