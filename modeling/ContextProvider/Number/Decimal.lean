import ContextProvider.Number.Double

/-!
# Decimal literals

A decimal literal is an optional sign, digits with at most one point and at least one digit, and
an optional exponent with its own sign and digits. Its double is the one nearest to the exact
value. The words `inf`, `infinity` and `nan`, in any case and with an optional sign, also spell
doubles, but not finite ones.
-/

namespace ContextProvider.Number

/-- The digit that a character stands for; only the ten ASCII digits count. -/
def digit? (c : Char) : Option Nat :=
  if '0' ≤ c ∧ c ≤ '9' then some (c.toNat - '0'.toNat) else none

/-- A character that is an ASCII digit. -/
def isDigit (c : Char) : Bool :=
  (digit? c).isSome

/-- The natural that a run of digits spells after the digits already read. -/
def naturalAfter (start : Nat) (digits : List Char) : Nat :=
  digits.foldl (fun value c ↦ value * 10 + (digit? c).getD 0) start

/-- The natural that a run of digits spells. -/
def naturalOf (digits : List Char) : Nat :=
  naturalAfter 0 digits

/-- An exact decimal value, `digits * 10 ^ exponent` with a sign. -/
structure Decimal where
  negative : Bool
  digits : Nat
  exponent : Int
  deriving DecidableEq

/-- The double nearest to a decimal. Exponents far outside the range of doubles are settled
without forming the power of ten. -/
def Decimal.toDouble (x : Decimal) : Double :=
  if x.digits = 0 then .finite (.zero x.negative)
  else if 400 < x.exponent then .infinite x.negative
  else if x.exponent < -(400 + (x.digits.log2 : Int)) then .finite (.zero x.negative)
  else .ofQuotient x.negative (x.digits * Nat.pow 10 x.exponent.toNat)
    (Nat.pow 10 (-x.exponent).toNat)

/-- The sign in front of a text and what follows it. -/
def takeSign : List Char → Bool × List Char
  | '-' :: rest => (true, rest)
  | '+' :: rest => (false, rest)
  | rest => (false, rest)

/-- An exponent mark with sign and digits that takes up the whole text, or no text at all. -/
def readExponent : List Char → Option Int
  | [] => some 0
  | mark :: rest =>
    if mark = 'e' ∨ mark = 'E' then
      let (negative, digits) := takeSign rest
      if digits.isEmpty || !digits.all isDigit then none
      else some (if negative then -(naturalOf digits : Int) else naturalOf digits)
    else none

/-- The digits, point and exponent that take up the whole text. -/
def readMagnitude (negative : Bool) (s : List Char) : Option Decimal :=
  let whole := s.takeWhile isDigit
  let afterWhole := s.dropWhile isDigit
  let (fraction, rest) := match afterWhole with
    | '.' :: tail => (tail.takeWhile isDigit, tail.dropWhile isDigit)
    | other => ([], other)
  if whole.isEmpty && fraction.isEmpty then none
  else (readExponent rest).map fun exponent ↦
    { negative, digits := naturalOf (whole ++ fraction), exponent := exponent - fraction.length }

/-- The decimal that a whole text spells. -/
def Decimal.ofText? (s : String) : Option Decimal :=
  let (negative, rest) := takeSign s.toList
  readMagnitude negative rest

/-- The double that a whole text spells, the words for infinities and "not a number" included. -/
def Double.ofText? (s : String) : Option Double :=
  let (negative, rest) := takeSign s.toList
  let word := rest.map Char.toLower
  if word = "inf".toList ∨ word = "infinity".toList then some (.infinite negative)
  else if word = "nan".toList then some .notANumber
  else (readMagnitude negative rest).map Decimal.toDouble

end ContextProvider.Number
