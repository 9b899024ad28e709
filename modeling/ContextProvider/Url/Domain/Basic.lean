import ContextProvider.Text.Combining
import ContextProvider.Text.Composed
import ContextProvider.Text.Percent
import ContextProvider.Url.Domain.Direction
import ContextProvider.Url.Domain.Joining
import ContextProvider.Url.Domain.Mapping
import ContextProvider.Url.Punycode

/-!
# Domains

A domain is labels between dots. Its text is percent-decoded, each character is kept, replaced or
refused, and the outcome is composed. A label that claims to be in Punycode stands for one that
could not be written otherwise. No label begins with a mark, every joiner has something to join, and
in a domain with two directions every label keeps to its own. A domain is written in ASCII, a label
beyond ASCII in Punycode.
-/

namespace ContextProvider.Url

open Text

/-- A label: its characters, and those it is written in. -/
structure DomainLabel where
  chars : List Char
  written : List Char
  deriving DecidableEq

/-- What a label in Punycode begins with. -/
def punyMark : List Char := ['x', 'n', '-', '-']

/-- The most digits of a label in Punycode that are read. -/
def punyReadLimit : Nat := 2000

/-- The most characters of a label that are written in Punycode. -/
def punyWriteLimit : Nat := 1000

/-- A character that a domain keeps as it is. -/
def isSettled (c : Char) : Bool :=
  fate c = .kept && !isRefusedAscii c && c ≠ '.'

namespace DomainLabel

/-- The label that one in Punycode stands for, its characters behind the mark. It has a character
beyond ASCII, and it could not be written otherwise. -/
def ofPunycode? (digits : List Char) : Option DomainLabel :=
  if punyReadLimit < digits.length then none
  else (punyDecode? digits).bind fun chars ↦
    if chars.any isBeyondAscii && chars.all isSettled && composed chars == chars then
      some ⟨chars, punyMark ++ digits⟩
    else none

/-- The label of characters that are settled and composed. -/
def ofChars? (chars : List Char) : Option DomainLabel :=
  if punyMark.isPrefixOf chars then ofPunycode? (chars.drop punyMark.length)
  else if !chars.any isBeyondAscii then some ⟨chars, chars⟩
  else if punyWriteLimit < chars.length then none
  else some ⟨chars, punyMark ++ punyEncode chars⟩

/-- A label that does not begin with a mark and whose joiners all fit. -/
def isWellFormed (label : DomainLabel) : Bool :=
  !label.chars.head?.any isMark && joinersFit [] label.chars

end DomainLabel

/-- The labels of characters, of which none is refused, between dots. -/
def labelsOf? (chars : List Char) : Option (List DomainLabel) :=
  if chars.any isRefusedAscii then none
  else (piecesChars '.' chars).mapM DomainLabel.ofChars?

/-- Labels that can be labels of one domain. -/
def agree (labels : List DomainLabel) : Bool :=
  labels.all DomainLabel.isWellFormed &&
    (!labels.any (fun label ↦ label.chars.any turnsDirection) ||
      labels.all fun label ↦ keepsDirection label.chars)

/-- A text as a domain in ASCII. -/
def asciiDomain? (host : List Char) : Option (List Char) := do
  let decoded := ofUtf8Lenient (percentDecode (toUtf8 (String.ofList host)))
  let mapped ← mapChars? decoded.toList
  let labels ← labelsOf? (composed mapped)
  if agree labels then return ['.'].intercalate (labels.map DomainLabel.written) else none

end ContextProvider.Url
