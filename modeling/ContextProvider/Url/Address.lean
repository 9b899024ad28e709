import ContextProvider.Number.Decimal
import ContextProvider.Number.Radix
import ContextProvider.Text.Pieces

/-!
# Addresses

A host whose last part is a number is an address of four bytes. Its parts may be decimal, octal
after a zero or hexadecimal after `0x`; the last part fills all the bytes that are left. An
address in brackets has eight pieces of sixteen bits, one run of zeros may be left out, and the
last two pieces may be written as four bytes.
-/

namespace ContextProvider.Url

open Text Number

/-! ## Four bytes -/

/-- The number that a part spells. -/
def addressPart? : List Char → Option Nat
  | [] => none
  | '0' :: 'x' :: digits => radixValue? 16 digits
  | '0' :: 'X' :: digits => radixValue? 16 digits
  | '0' :: d :: digits => radixValue? 8 (d :: digits)
  | digits => radixValue? 10 digits

/-- The parts of a host, without an empty one at the end. -/
def hostParts (host : List Char) : List (List Char) :=
  let parts := piecesChars '.' host
  if parts.getLast? = some [] then parts.dropLast else parts

/-- The last part of a host is a number, or digits that spell none. -/
def endsInNumber (host : List Char) : Bool :=
  match (hostParts host).getLast? with
  | none => false
  | some part => (!part.isEmpty && part.all isDigit) || (addressPart? part).isSome

/-- The address of parts that come after a number of bytes already read. -/
def fillAddress (bytes : List Nat) : List Nat → Option Nat
  | [] => none
  | [last] =>
    if last < Nat.pow 256 (4 - bytes.length) then
      some (bytes.zipIdx.foldl (fun sum (byte, i) ↦ sum + byte * Nat.pow 256 (3 - i)) last)
    else none
  | byte :: rest => if byte < 256 then fillAddress (bytes ++ [byte]) rest else none

/-- The address of four bytes that a host spells. -/
def address4? (host : List Char) : Option Nat :=
  let parts := hostParts host
  if 4 < parts.length then none
  else (parts.mapM addressPart?).bind (fillAddress [])

/-- An address of four bytes, in decimal. -/
def address4Text (address : Nat) : String :=
  joined "." ([3, 2, 1, 0].map fun i ↦ toString (address / Nat.pow 256 i % 256))

/-! ## Eight pieces -/

/-- A byte in decimal without superfluous zeros. -/
def decimalByte? (digits : List Char) : Option Nat :=
  if digits.isEmpty || (1 < digits.length && digits.head? == some '0') then none
  else (radixValue? 10 digits).filter (· < 256)

/-- The pieces of a last group: one, or two from four bytes. -/
def lastGroup? (group : List Char) : Option (List Nat) :=
  if group.contains '.' then
    match (piecesChars '.' group).mapM decimalByte? with
    | some [a, b, c, d] => some [a * 256 + b, c * 256 + d]
    | _ => none
  else if group.isEmpty || 4 < group.length then none
  else (radixValue? 16 group).map fun piece ↦ [piece]

/-- A group in front of others. -/
def group? (group : List Char) : Option (List Nat) :=
  if group.contains '.' then none else lastGroup? group

/-- The pieces of groups; only the last may hold four bytes, and only where that is allowed. -/
def groups? (bytesAtEnd : Bool) : List (List Char) → Option (List Nat)
  | [] => some []
  | [last] => if bytesAtEnd then lastGroup? last else group? last
  | group :: rest => do
    let piece ← group? group
    let pieces ← groups? bytesAtEnd rest
    return piece ++ pieces

/-- The pieces of a run of groups, none for the empty text. -/
def run? (bytesAtEnd : Bool) (s : List Char) : Option (List Nat) :=
  if s.isEmpty then some [] else groups? bytesAtEnd (piecesChars ':' s)

/-- The text before and after the first two colons in a row. -/
def splitAtGap? : List Char → Option (List Char × List Char)
  | ':' :: ':' :: rest => some ([], rest)
  | c :: rest => (splitAtGap? rest).map fun (before, after) ↦ (c :: before, after)
  | [] => none

/-- The eight pieces that a text between brackets spells. -/
def address6? (s : List Char) : Option (List Nat) :=
  match splitAtGap? s with
  | none => (run? true s).filter fun pieces ↦ pieces.length == 8
  | some (before, after) => do
    let front ← run? false before
    let back ← run? true after
    let given := front.length + back.length
    if 7 < given then none
    else return front ++ List.replicate (8 - given) 0 ++ back

/-- The number of zeros in front. -/
def leadingZeros (pieces : List Nat) : Nat :=
  (pieces.takeWhile (· == 0)).length

/-- The place and length of the first longest run of zeros. -/
def longestZeros (pieces : List Nat) : Nat × Nat :=
  (List.range pieces.length).foldl (fun best place ↦
    let length := leadingZeros (pieces.drop place)
    if best.2 < length then (place, length) else best) (0, 0)

/-- Pieces in hexadecimal with colons between them. -/
def piecesText (pieces : List Nat) : String :=
  joined ":" (pieces.map fun piece ↦ String.ofList (Nat.toDigits 16 piece))

/-- An address of eight pieces between brackets; the first longest run of two or more zeros is
left out. -/
def address6Text (pieces : List Nat) : String :=
  let (place, length) := longestZeros pieces
  let inner := if length < 2 then piecesText pieces
    else piecesText (pieces.take place) ++ "::" ++ piecesText (pieces.drop (place + length))
  "[" ++ inner ++ "]"

end ContextProvider.Url
