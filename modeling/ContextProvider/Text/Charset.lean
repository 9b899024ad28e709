import ContextProvider.Text.Blank
import ContextProvider.Text.Pieces
import ContextProvider.Text.Utf8

/-!
# Charsets

The type of a body may name its charset in a parameter. Bytes are UTF-8 unless the charset is one
of the names of the western single-byte code, whose bytes from 0x80 to 0x9F stand for marks and
letters and all others for the character of the same number. A byte order mark in front of UTF-8
is dropped.

That is less than clients of the web read. They know the other charsets of the encoding standard as
well, and to them a byte order mark of UTF-8 or UTF-16 counts for more than the name of a charset.
Here the bytes of such a body are taken for UTF-8, or for the western code where it is named.
-/

namespace ContextProvider.Text

/-- The names of the western single-byte code. -/
def westernNames : List String :=
  ["ansi_x3.4-1968", "ascii", "cp1252", "cp819", "csisolatin1", "ibm819", "iso-8859-1",
    "iso-ir-100", "iso8859-1", "iso88591", "iso_8859-1", "iso_8859-1:1987", "l1", "latin1",
    "us-ascii", "windows-1252", "x-cp1252"]

/-- The characters of the western single-byte code from 0x80 to 0x9F. -/
def westernMarks : List Nat :=
  [0x20AC, 0x81, 0x201A, 0x0192, 0x201E, 0x2026, 0x2020, 0x2021, 0x02C6, 0x2030, 0x0160, 0x2039,
    0x0152, 0x8D, 0x017D, 0x8F, 0x90, 0x2018, 0x2019, 0x201C, 0x201D, 0x2022, 0x2013, 0x2014,
    0x02DC, 0x2122, 0x0161, 0x203A, 0x0153, 0x9D, 0x017E, 0x0178]

/-- The character of a byte in the western single-byte code. -/
def westernChar (b : UInt8) : Char :=
  if 0x80 ≤ b ∧ b ≤ 0x9F then Char.ofNat (westernMarks.getD (b.toNat - 0x80) 0xFFFD)
  else Char.ofNat b.toNat

/-- The letters of a text in small form. -/
def lower (s : String) : String :=
  String.ofList (s.toList.map Char.toLower)

/-- The value of a parameter without its quotes. -/
def unquoteParameter (s : List Char) : List Char :=
  match s with
  | '"' :: rest => if rest.getLast? = some '"' then rest.dropLast else s
  | _ => s

/-- The value of a parameter behind the type of a body. -/
def parameter? (contentType name : String) : Option String :=
  ((piecesChars ';' contentType.toList).drop 1).findSome? fun part ↦
    let key := String.ofList (trimChars (part.takeWhile (· ≠ '=')))
    let value := trimChars ((part.dropWhile (· ≠ '=')).drop 1)
    if lower key = name then some (String.ofList (unquoteParameter value)) else none

/-- The bytes without a byte order mark in front. -/
def dropByteOrderMark : List UInt8 → List UInt8
  | 0xEF :: 0xBB :: 0xBF :: rest => rest
  | bytes => bytes

/-- The text of a body of the given type. -/
def bodyText (contentType : Option String) (body : List UInt8) : String :=
  match contentType.bind fun type ↦ parameter? type "charset" with
  | some charset =>
    if westernNames.contains (lower charset) then String.ofList (body.map westernChar)
    else ofUtf8Lenient (dropByteOrderMark body)
  | none => ofUtf8Lenient (dropByteOrderMark body)

end ContextProvider.Text
