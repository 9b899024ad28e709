import ContextProvider.Number.Decimal
import ContextProvider.Number.Shortest

/-!
# JSON numbers

A number written without point and exponent that fits 64 bits, with or without sign, is kept as
an integer; `-0` and every other number is a double. A double is computed the quick way: as many
leading digits as fit 64 bits are rounded to a double, which is then multiplied or divided by a
power of ten in double arithmetic. A number too large for a double is refused, one too small is
zero.

An integer is written with its digits. A double is written with its fewest digits and at least
one decimal, positionally for decimal exponents from -5 to 15 and with an exponent otherwise.
-/

namespace ContextProvider

open Number

/-- A JSON number: an integer or a finite double. -/
inductive Json.Numeric where
  | integer (value : Int)
  | double (value : FiniteDouble)
  deriving DecidableEq

namespace Json

/-- The parts of a number as written. Each part holds digits only. -/
structure Literal where
  negative : Bool
  whole : List Char
  fraction : Option (List Char)
  exponent : Option (Bool × List Char)
  deriving DecidableEq

/-- Append digits to a significand while it fits 64 bits; also the number of digits left over. -/
def absorbDigits (significand : Nat) : List Char → Nat × Nat
  | [] => (significand, 0)
  | c :: rest =>
    let next := significand * 10 + (digit? c).getD 0
    if next < 0x10000000000000000 then absorbDigits next rest else (significand, rest.length + 1)

/-- The double nearest to `10 ^ power`, for powers up to 308. -/
def powerOfTen (power : Nat) : FiniteDouble :=
  ((Decimal.mk false 1 power).toDouble.finite?).getD (.zero false)

/-- A positive double times `10 ^ exponent` in double arithmetic; `none` beyond the largest
double. Two divisions by `10 ^ 308` leave nothing of a significand of 64 bits. -/
def scaleByTens (x : FiniteDouble) (exponent : Int) : Option FiniteDouble :=
  if x.mantissa = 0 then some x
  else if 308 < exponent then none
  else if 0 ≤ exponent then (x.mul (powerOfTen exponent.toNat)).finite?
  else if -308 ≤ exponent then (x.div (powerOfTen (-exponent).toNat)).finite?
  else if -616 ≤ exponent then do
    let reduced ← (x.div (powerOfTen 308)).finite?
    (reduced.div (powerOfTen (-exponent - 308).toNat)).finite?
  else some (.zero false)

/-- The exponent of ten that a literal states. -/
def Literal.statedExponent (n : Literal) : Int :=
  match n.exponent with
  | none => 0
  | some (negative, digits) => if negative then -(naturalOf digits : Int) else naturalOf digits

/-- The value of a literal; `none` when it is too large for a double. -/
def Literal.value? (n : Literal) : Option Numeric :=
  let (leading, extra) := absorbDigits 0 n.whole
  if n.fraction.isNone && n.exponent.isNone && extra == 0 &&
      (!n.negative || (1 ≤ leading && leading ≤ 0x8000000000000000)) then
    some (.integer (if n.negative then -(leading : Int) else leading))
  else do
    let fraction := n.fraction.getD []
    let (significand, left) := absorbDigits leading fraction
    let used := fraction.length - left
    let rounded ← (Double.ofInt significand).finite?
    let magnitude ← scaleByTens rounded (n.statedExponent + extra - used)
    some (.double (magnitude.negateIf n.negative))

/-- The double nearest to a number. -/
def Numeric.toDouble : Numeric → Double
  | .integer n => .ofInt n
  | .double x => .finite x

/-! ## Writing -/

/-- The digits of a natural in base ten. -/
def natChars (n : Nat) : List Char :=
  Nat.toDigits 10 n

/-- An integer with its digits, and a sign if it is negative. -/
def intChars (n : Int) : List Char :=
  if n < 0 then '-' :: natChars n.natAbs else natChars n.natAbs

/-- Digits with the point after the given number of them, at least one digit on either side. -/
def positionalChars (digits : List Char) (pointAfter : Int) : List Char :=
  if pointAfter ≤ 0 then
    ['0', '.'] ++ List.replicate (-pointAfter).toNat '0' ++ digits
  else if (digits.length : Int) ≤ pointAfter then
    digits ++ List.replicate (pointAfter.toNat - digits.length) '0' ++ ['.', '0']
  else digits.take pointAfter.toNat ++ '.' :: digits.drop pointAfter.toNat

/-- Digits with the point after the first of them, if there are more, and a signed exponent. -/
def scientificChars (digits : List Char) (exponent : Int) : List Char :=
  let fraction := digits.drop 1
  digits.take 1 ++ (if fraction.isEmpty then [] else '.' :: fraction) ++
    (if exponent < 0 then ['e', '-'] else ['e', '+']) ++ natChars exponent.natAbs

/-- The smallest decimal exponent that is written positionally. -/
def leastPositional : Int := -5

/-- The largest decimal exponent that is written positionally. -/
def greatestPositional : Int := 15

/-- A finite double with its fewest digits. -/
def doubleChars (x : FiniteDouble) : List Char :=
  let shortest := x.shortest
  let digits := natChars shortest.digits
  let exponent := shortest.exponent + digits.length - 1
  let magnitude :=
    if x.mantissa = 0 then ['0', '.', '0']
    else if leastPositional ≤ exponent ∧ exponent ≤ greatestPositional then
      positionalChars digits (exponent + 1)
    else scientificChars digits exponent
  if x.negative then '-' :: magnitude else magnitude

/-- A number as it is written. -/
def Numeric.chars : Numeric → List Char
  | .integer n => intChars n
  | .double x => doubleChars x

end Json

end ContextProvider
