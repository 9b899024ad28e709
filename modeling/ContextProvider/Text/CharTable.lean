import ContextProvider.Number.Radix
import ContextProvider.Text.Pieces

/-!
# Tables of characters

A table of characters is written in lines of text. A range is the number of a character in
hexadecimal, or the numbers of its first and its last character with a hyphen between them. A line
of ranges has commas between them; a line of a group has the name of the group and a colon in
front. What cannot be read of a line does not count.
-/

namespace ContextProvider.Text

open Number

/-- The characters from one number to another, both included. -/
structure CharRange where
  first : Nat
  last : Nat
  deriving DecidableEq

namespace CharRange

/-- The character is in the range. -/
def has (range : CharRange) (c : Char) : Bool :=
  range.first ≤ c.toNat && c.toNat ≤ range.last

/-- The range that characters spell. -/
def ofChars? (s : List Char) : Option CharRange :=
  match piecesChars '-' s with
  | [only] => (radixValue? 16 only).map fun n ↦ ⟨n, n⟩
  | [first, last] => do return ⟨← radixValue? 16 first, ← radixValue? 16 last⟩
  | _ => none

/-- The ranges between commas. -/
def listOfChars (s : List Char) : List CharRange :=
  (piecesChars ',' s).filterMap ofChars?

/-- The ranges of all lines. -/
def ofLines (lines : List String) : List CharRange :=
  lines.flatMap fun line ↦ listOfChars line.toList

end CharRange

/-- Ranges of characters under a name. -/
structure CharGroup where
  name : String
  ranges : List CharRange
  deriving DecidableEq

namespace CharGroup

/-- The character is in the group. -/
def has (group : CharGroup) (c : Char) : Bool :=
  group.ranges.any fun range ↦ range.has c

/-- The group of a line. -/
def ofLine (line : String) : CharGroup where
  name := String.ofList (line.toList.takeWhile (· ≠ ':'))
  ranges := CharRange.listOfChars ((line.toList.dropWhile (· ≠ ':')).drop 1)

/-- The groups of all lines; a name may have several. -/
def ofLines (lines : List String) : List CharGroup :=
  lines.map ofLine

/-- The name of the first group that has a character. -/
def nameOf? (groups : List CharGroup) (c : Char) : Option String :=
  (groups.find? fun group ↦ group.has c).map CharGroup.name

end CharGroup

end ContextProvider.Text
