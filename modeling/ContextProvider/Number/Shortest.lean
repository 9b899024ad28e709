import ContextProvider.Number.Double

/-!
# The fewest digits of a double

Among the decimals that read back as a given double, the shortest ones are the multiples of the
largest power of ten that has a multiple in the double's rounding interval; of those the nearest
to the double is chosen. The ends of the interval belong to it when the mantissa is even, because
a tie goes to the even mantissa. Below a power of two the spacing of doubles halves, and with it
the lower half of the interval.
-/

namespace ContextProvider.Number

/-- Digits and a power of ten. -/
structure Digits where
  digits : Nat
  exponent : Int
  deriving DecidableEq

/-- The rounding interval of a positive double in quarters of its last place: the distance from
the middle down to the lower end. -/
def FiniteDouble.lowerQuarters (x : FiniteDouble) : Nat :=
  if x.mantissa = Nat.pow 2 52 ∧ -1074 < x.exponent then 1 else 2

/-- The multiple of `10 ^ power` nearest to the double, if one lies in its rounding interval. -/
def FiniteDouble.multipleIn? (x : FiniteDouble) (power : Int) : Option Nat :=
  let quarter := x.exponent - 2
  let place := Nat.pow 10 power.toNat * Nat.pow 2 (-quarter).toNat
  let unit := Nat.pow 2 quarter.toNat * Nat.pow 10 (-power).toNat
  let middle := 4 * x.mantissa * unit
  let lower := (4 * x.mantissa - x.lowerQuarters) * unit
  let upper := (4 * x.mantissa + 2) * unit
  let inside (multiple : Nat) : Bool :=
    let value := multiple * place
    if x.mantissa % 2 = 0 then lower ≤ value && value ≤ upper
    else lower < value && value < upper
  let below := middle / place
  let above := below + 1
  let nearest := roundHalfEven middle place
  if inside nearest then some nearest
  else if inside below then some below
  else if inside above then some above
  else none

/-- Look for the largest power of ten with a multiple in the interval, from a power downward. -/
def FiniteDouble.searchDigits (x : FiniteDouble) : Nat → Int → Digits
  | 0, power => ⟨x.mantissa, power⟩
  | steps + 1, power =>
    match x.multipleIn? power with
    | some (multiple + 1) => ⟨multiple + 1, power⟩
    | _ => x.searchDigits steps (power - 1)

/-- The fewest digits that read back as the double's magnitude. -/
def FiniteDouble.shortest (x : FiniteDouble) : Digits :=
  if x.mantissa = 0 then ⟨0, 0⟩
  else
    let bits : Int := x.mantissa.log2 + 2 + x.exponent
    x.searchDigits 400 (bits * 30103 / 100000 + 1)

end ContextProvider.Number
