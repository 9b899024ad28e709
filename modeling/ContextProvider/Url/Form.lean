import ContextProvider.Text.Percent
import ContextProvider.Text.Pieces

/-!
# Form-encoded pairs

A query holds pairs of a name and a value, joined by ampersands, with an equals sign between name
and value. A space is written as a plus sign; letters, digits and the marks `*`, `-`, `.` and `_`
stand for themselves, and every other byte is percent-encoded. Reading takes a name without an
equals sign to have the empty value, passes over empty pairs and never fails.
-/

namespace ContextProvider.Url

open Text

/-- What stands for itself in a form-encoded name or value. -/
def keepInForm (b : UInt8) : Bool :=
  isAlphanumericByte b || b == 0x2A || b == 0x2D || b == 0x2E || b == 0x5F

/-- A byte of a form-encoded text. -/
def formByte (b : UInt8) : List Char :=
  if b = 0x20 then ['+'] else percentEncode keepInForm [b]

/-- A form-encoded name or value. -/
def formText (s : String) : List Char :=
  (toUtf8 s).flatMap formByte

/-- A form-encoded pair. -/
def formPair (pair : String × String) : List Char :=
  formText pair.1 ++ '=' :: formText pair.2

/-- A query with pairs behind those it already has. -/
def appendPairs (query : List Char) (pairs : List (String × String)) : List Char :=
  pairs.foldl (fun query pair ↦
    if query.isEmpty then formPair pair else query ++ '&' :: formPair pair) query

/-- The text that a form-encoded name or value stands for. -/
def unformText (s : List Char) : String :=
  ofUtf8Lenient (percentDecode (toUtf8 (String.ofList (s.map fun c ↦
    if c = '+' then ' ' else c))))

/-- The pair that a part of a query stands for. -/
def readPair (part : List Char) : String × String :=
  (unformText (part.takeWhile (· ≠ '=')), unformText ((part.dropWhile (· ≠ '=')).drop 1))

/-- The pairs of a query. -/
def readPairs (query : List Char) : List (String × String) :=
  ((piecesChars '&' query).filter fun part ↦ !part.isEmpty).map readPair

end ContextProvider.Url
