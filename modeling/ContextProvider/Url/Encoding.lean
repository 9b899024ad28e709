import ContextProvider.Text.Percent

/-!
# Encoded parts of a URL

Each part of a URL has its own characters that stand for themselves: visible ASCII without those
that delimit the part. All other bytes are percent-encoded. In a path or a query that is already
written, a percent sign stays as it is, because it belongs to an encoded byte; in a segment that
is added to a path it is encoded.
-/

namespace ContextProvider.Url

open Text

/-- A byte that stands for one of the given characters. -/
def isByteOf (marks : List Char) (b : UInt8) : Bool :=
  marks.any fun c ↦ c.toNat == b.toNat

/-- A byte that stands for a visible ASCII character. -/
def isVisibleByte (b : UInt8) : Bool :=
  0x21 ≤ b && b ≤ 0x7E

/-- What stands for itself in a fragment. -/
def keepInFragment (b : UInt8) : Bool :=
  isVisibleByte b && !isByteOf ['"', '<', '>', '\x60'] b

/-- What stands for itself in a path. -/
def keepInPath (b : UInt8) : Bool :=
  keepInFragment b && !isByteOf ['#', '?', '\x7b', '\x7d'] b

/-- What stands for itself in a segment that is added to a path. The backslash separates the
segments of special URLs. -/
def keepInSegment (special : Bool) (b : UInt8) : Bool :=
  keepInPath b && !isByteOf ['/', '%'] b && !(special && isByteOf ['\\'] b)

/-- What stands for itself in a user name or a password. -/
def keepInCredentials (b : UInt8) : Bool :=
  keepInPath b && !isByteOf ['/', ':', ';', '=', '@', '[', '\\', ']', '^', '|'] b

/-- What stands for itself in a query. -/
def keepInQuery (special : Bool) (b : UInt8) : Bool :=
  isVisibleByte b && !isByteOf ['"', '#', '<', '>'] b && !(special && isByteOf ['\''] b)

/-- What stands for itself in a host that is not a domain: everything but controls and
characters beyond ASCII. -/
def keepInHost (b : UInt8) : Bool :=
  0x20 ≤ b && b ≤ 0x7E

/-- Characters with every byte encoded that does not stand for itself. -/
def encodeChars (keep : UInt8 → Bool) (s : List Char) : String :=
  String.ofList (percentEncode keep (toUtf8 (String.ofList s)))

/-- A tab, a line feed or a carriage return, which a URL does not contain. -/
def isLineBlank (c : Char) : Bool :=
  c = '\t' || c = '\n' || c = '\r'

/-- The characters without tabs, line feeds and carriage returns. -/
def dropLineBlanks (s : List Char) : List Char :=
  s.filter fun c ↦ !isLineBlank c

end ContextProvider.Url
