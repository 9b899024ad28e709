/-!
# Doubles

A double is a sign, an integer below `2 ^ 53` and a power of two, or an infinity, or not a
number. Every quotient of naturals has a nearest double, a tie going to the even mantissa; a
quotient that rounds beyond the largest finite double becomes an infinity. All arithmetic is on
naturals, so that each value is exact until it is rounded once.
-/

namespace ContextProvider.Number

/-- The natural nearest to `num / den`, a half going to the even neighbour. -/
def roundHalfEven (num den : Nat) : Nat :=
  let quotient := num / den
  let twice := 2 * (num % den)
  if twice < den then quotient
  else if den < twice then quotient + 1
  else quotient + quotient % 2

/-- The mantissa and exponent of a finite double: all 53 bits are used unless the exponent is
the smallest one. -/
def IsCanonical (mantissa : Nat) (exponent : Int) : Prop :=
  mantissa < Nat.pow 2 53 ∧ -1074 ≤ exponent ∧ exponent ≤ 971 ∧
    (Nat.pow 2 52 ≤ mantissa ∨ exponent = -1074)

instance (mantissa : Nat) (exponent : Int) : Decidable (IsCanonical mantissa exponent) := by
  unfold IsCanonical
  infer_instance

/-- A finite double, `mantissa * 2 ^ exponent` with a sign; zero has two signs. -/
structure FiniteDouble where
  negative : Bool
  mantissa : Nat
  exponent : Int
  canonical : IsCanonical mantissa exponent
  deriving DecidableEq

/-- A double: finite, infinite or not a number. -/
inductive Double where
  | finite (value : FiniteDouble)
  | infinite (negative : Bool)
  | notANumber
  deriving DecidableEq

/-- Zero with the given sign. -/
def FiniteDouble.zero (negative : Bool) : FiniteDouble where
  negative := negative
  mantissa := 0
  exponent := -1074
  canonical := by decide

/-- The same magnitude with the sign turned around if asked. -/
def FiniteDouble.negateIf (flip : Bool) (x : FiniteDouble) : FiniteDouble :=
  { x with negative := xor flip x.negative }

/-- A quotient with `2 ^ exponent` taken out, as numerator and denominator. -/
def scaledQuotient (num den : Nat) (exponent : Int) : Nat × Nat :=
  (num * Nat.pow 2 (-exponent).toNat, den * Nat.pow 2 exponent.toNat)

/-- The mantissa of a quotient at the given exponent, rounded. -/
def mantissaAt (num den : Nat) (exponent : Int) : Nat :=
  let scaled := scaledQuotient num den exponent
  roundHalfEven scaled.1 scaled.2

/-- The exponent at which a positive quotient fills the mantissa: with the bit lengths of both
parts known, one of two neighbours, and never below the smallest. -/
def fillingExponent (num den : Nat) : Int :=
  let low : Int := max ((num.log2 : Int) - (den.log2 : Int) - 53) (-1074)
  let scaled := scaledQuotient num den low
  if scaled.1 / scaled.2 < Nat.pow 2 53 then low else low + 1

/-- The double with the given sign nearest to `num / den`. -/
def Double.ofQuotient (negative : Bool) (num den : Nat) : Double :=
  if num = 0 then .finite (.zero negative)
  else
    let exponent := fillingExponent num den
    let rounded := mantissaAt num den exponent
    let carried : Nat × Int :=
      if rounded = Nat.pow 2 53 then (Nat.pow 2 52, exponent + 1) else (rounded, exponent)
    if h : IsCanonical carried.1 carried.2 then .finite ⟨negative, carried.1, carried.2, h⟩
    else .infinite negative

/-- The double nearest to `mantissa * 2 ^ exponent`. -/
def Double.ofScaled (negative : Bool) (mantissa : Nat) (exponent : Int) : Double :=
  .ofQuotient negative (mantissa * Nat.pow 2 exponent.toNat)
    (Nat.pow 2 (-exponent).toNat)

/-- The double nearest to an integer. -/
def Double.ofInt (n : Int) : Double :=
  .ofQuotient (n < 0) n.natAbs 1

/-- The product of two finite doubles, rounded once. -/
def FiniteDouble.mul (x y : FiniteDouble) : Double :=
  .ofScaled (xor x.negative y.negative) (x.mantissa * y.mantissa) (x.exponent + y.exponent)

/-- The quotient of two finite doubles, rounded once; the divisor is not zero. -/
def FiniteDouble.div (x y : FiniteDouble) : Double :=
  let exponent := x.exponent - y.exponent
  .ofQuotient (xor x.negative y.negative) (x.mantissa * Nat.pow 2 exponent.toNat)
    (y.mantissa * Nat.pow 2 (-exponent).toNat)

/-- The finite double itself, if it is one. -/
def Double.finite? : Double → Option FiniteDouble
  | .finite value => some value
  | _ => none

/-- Neither an infinity nor "not a number". -/
def Double.isFinite (x : Double) : Bool :=
  x.finite?.isSome

end ContextProvider.Number
