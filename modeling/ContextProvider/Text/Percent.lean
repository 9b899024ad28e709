import ContextProvider.Text.Utf8

/-!
# Percent-encoding

A byte is encoded as a percent sign and two upper-case hexadecimal digits; which bytes stand for
themselves is up to the place where the text is put. Decoding turns every percent sign with two
hexadecimal digits of either case into a byte and leaves everything else as it is, so it cannot
fail.
-/

namespace ContextProvider.Text

/-- The upper-case hexadecimal digit of a number below sixteen. -/
def upperHexChar (n : Nat) : Char :=
  if n < 10 then Char.ofNat ('0'.toNat + n) else Char.ofNat ('A'.toNat + (n - 10))

/-- A byte as a percent sign and two digits. -/
def percentTriplet (b : UInt8) : List Char :=
  ['%', upperHexChar (b.toNat / 16), upperHexChar (b.toNat % 16)]

/-- The bytes with each one that does not stand for itself encoded. -/
def percentEncode (keep : UInt8 → Bool) (bytes : List UInt8) : List Char :=
  bytes.flatMap fun b ↦ if keep b then [Char.ofNat b.toNat] else percentTriplet b

/-- The value of a hexadecimal digit given as a byte. -/
def hexByteValue? (b : UInt8) : Option UInt8 :=
  if 0x30 ≤ b ∧ b ≤ 0x39 then some (b - 0x30)
  else if 0x41 ≤ b ∧ b ≤ 0x46 then some (b - 0x41 + 10)
  else if 0x61 ≤ b ∧ b ≤ 0x66 then some (b - 0x61 + 10)
  else none

/-- The bytes with each percent sign that two hexadecimal digits follow decoded. -/
def percentDecode : List UInt8 → List UInt8
  | b :: h :: l :: more =>
    match hexByteValue? h, hexByteValue? l with
    | some high, some low =>
      if b = 0x25 then (high * 16 + low) :: percentDecode more
      else b :: percentDecode (h :: l :: more)
    | _, _ => b :: percentDecode (h :: l :: more)
  | b :: rest => b :: percentDecode rest
  | [] => []

/-- A byte that stands for an ASCII letter or digit. -/
def isAlphanumericByte (b : UInt8) : Bool :=
  (0x30 ≤ b && b ≤ 0x39) || (0x41 ≤ b && b ≤ 0x5A) || (0x61 ≤ b && b ≤ 0x7A)

/-- A byte that stands for itself in every part of a URL: an ASCII letter or digit, or one of
the four marks `-`, `.`, `_` and `~`. -/
def isUnreservedByte (b : UInt8) : Bool :=
  isAlphanumericByte b || b == 0x2D || b == 0x2E || b == 0x5F || b == 0x7E

/-- The text that a percent-encoded text stands for, if its bytes are well formed. -/
def percentDecodeText? (s : String) : Option String :=
  ofUtf8? (percentDecode (toUtf8 s))

/-- A text with every byte but the unreserved ones encoded. -/
def percentEncodeText (s : String) : String :=
  String.ofList (percentEncode isUnreservedByte (toUtf8 s))

end ContextProvider.Text
