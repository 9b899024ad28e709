/-!
# Bytes as characters

A byte sequence is read as symbols: a well-formed UTF-8 sequence is a character, and a byte that
belongs to no well-formed sequence is a stray. Overlong forms, surrogates and values beyond
U+10FFFF are not well formed. Reading is strict where a stray makes the whole text unreadable,
and lenient where each maximal malformed part becomes U+FFFD.
-/

namespace ContextProvider.Text

/-- A character, or `none` for a byte outside every well-formed sequence. -/
abbrev Symbol := Option Char

/-- The bounds of the second byte and the number of continuation bytes after a leading byte. -/
def leadShape? (b : UInt8) : Option (Nat × UInt8 × UInt8) :=
  if 0xC2 ≤ b ∧ b ≤ 0xDF then some (1, 0x80, 0xBF)
  else if b = 0xE0 then some (2, 0xA0, 0xBF)
  else if b = 0xED then some (2, 0x80, 0x9F)
  else if 0xE1 ≤ b ∧ b ≤ 0xEF then some (2, 0x80, 0xBF)
  else if b = 0xF0 then some (3, 0x90, 0xBF)
  else if 0xF1 ≤ b ∧ b ≤ 0xF3 then some (3, 0x80, 0xBF)
  else if b = 0xF4 then some (3, 0x80, 0x8F)
  else none

/-- The payload bits of a leading byte with the given number of continuation bytes. -/
def leadBits (count : Nat) (b : UInt8) : Nat :=
  b.toNat % Nat.pow 2 (6 - count)

/-- What the next bytes are: a character and its length, or a malformed part and its length. -/
inductive Step where
  | character (c : Char) (length : Nat)
  | malformed (length : Nat)

/-- Follow the continuation bytes of a sequence already `length` bytes long. -/
def continueSequence (value length : Nat) : Nat → UInt8 → UInt8 → List UInt8 → Step
  | 0, _, _, _ => .character (Char.ofNat value) length
  | _ + 1, _, _, [] => .malformed length
  | remaining + 1, low, high, b :: rest =>
    if low ≤ b ∧ b ≤ high then
      continueSequence (value * 64 + b.toNat % 64) (length + 1) remaining 0x80 0xBF rest
    else .malformed length

/-- The step at a byte and the bytes after it. -/
def stepAt (b : UInt8) (rest : List UInt8) : Step :=
  if b < 0x80 then .character (Char.ofNat b.toNat) 1
  else match leadShape? b with
    | none => .malformed 1
    | some (count, low, high) => continueSequence (leadBits count b) 1 count low high rest

/-- The symbols of a byte sequence, after those already read in reverse; `skip` bytes belong to
the symbol read last. -/
def symbolsFrom (read : List Symbol) : Nat → List UInt8 → List Symbol
  | _, [] => read.reverse
  | skip + 1, _ :: rest => symbolsFrom read skip rest
  | 0, b :: rest =>
    match stepAt b rest with
    | .character c length => symbolsFrom (some c :: read) (length - 1) rest
    | .malformed length => symbolsFrom (none :: read) (length - 1) rest

/-- The symbols of a byte sequence: each maximal malformed part is one stray. -/
def symbols (bytes : List UInt8) : List Symbol :=
  symbolsFrom [] 0 bytes

/-- The characters of symbols without strays, put in front of those collected in reverse. -/
def charsFrom (read : List Char) : List Symbol → Option (List Char)
  | [] => some read.reverse
  | some c :: rest => charsFrom (c :: read) rest
  | none :: _ => none

/-- The characters of symbols without strays. -/
def chars? (s : List Symbol) : Option (List Char) :=
  charsFrom [] s

/-- The text of well-formed bytes. -/
def ofUtf8? (bytes : List UInt8) : Option String :=
  (chars? (symbols bytes)).map String.ofList

/-- The text of any bytes, each malformed part read as U+FFFD. -/
def ofUtf8Lenient (bytes : List UInt8) : String :=
  String.ofList ((symbols bytes).map fun s ↦ s.getD '\uFFFD')

/-- The bytes of a text. -/
def toUtf8 (s : String) : List UInt8 :=
  s.toUTF8.toList

end ContextProvider.Text
