import ContextProvider.Proofs.Json.Printed
import ContextProvider.Proofs.Number.Decimal
import ContextProvider.Proofs.Number.Double
import Mathlib.Algebra.Order.Field.Basic
import Mathlib.Data.Rat.Cast.Order

/-!
# The magnitude of a decimal

A decimal has a finite double exactly if its magnitude lies below the middle between the largest
finite double and the next power of two: the exponents that are settled without forming a power of
ten are settled the same way. The digits of an integer spell the decimal whose double is the one of
the integer.
-/

namespace ContextProvider.Number

open Json

/-! ## Overflow -/

/-- The exact magnitude of a decimal. -/
def Decimal.magnitude (x : Decimal) : ℚ :=
  x.digits * 10 ^ x.exponent

/-- A magnitude compared with a natural, in naturals alone. -/
theorem Decimal.magnitude_lt_natCast_iff (x : Decimal) (k : Nat) :
    x.magnitude < k ↔ x.digits * 10 ^ x.exponent.toNat < 10 ^ (-x.exponent).toNat * k := by
  obtain ⟨n, hn | hn⟩ := Int.eq_nat_or_neg x.exponent
  · rw [magnitude, hn, zpow_natCast, Int.toNat_natCast, Int.toNat_neg_natCast, pow_zero, one_mul]
    exact_mod_cast Iff.rfl
  · have hpos : (0 : ℚ) < 10 ^ n := by positivity
    rw [magnitude, hn, zpow_neg, zpow_natCast, ← div_eq_mul_inv, div_lt_iff₀ hpos, neg_neg,
      Int.toNat_natCast, Int.toNat_neg_natCast, pow_zero, mul_one, Nat.mul_comm]
    exact_mod_cast Iff.rfl

theorem overflowBound_pos : 0 < overflowBound :=
  Nat.mul_pos (by decide) (pow_pos Nat.two_pos 970)

theorem overflowBound_le_ten_pow : overflowBound ≤ 10 ^ 400 := by
  calc overflowBound
    _ ≤ 2 ^ 54 * 2 ^ 970 := by
      unfold overflowBound
      gcongr
      decide
    _ = 2 ^ 1024 := by rw [← pow_add]
    _ ≤ 2 ^ 1200 := by gcongr <;> decide
    _ = (2 ^ 3) ^ 400 := by rw [← pow_mul]
    _ ≤ 10 ^ 400 := by gcongr; decide

/-- A decimal has a finite double exactly below the magnitude from which a double overflows. -/
theorem Decimal.isFinite_toDouble_iff {x : Decimal} :
    x.toDouble.isFinite ↔ x.magnitude < overflowBound := by
  rw [magnitude_lt_natCast_iff, toDouble]
  split_ifs with hzero hlarge hsmall
  · rw [hzero, Nat.zero_mul]
    exact iff_of_true rfl (Nat.mul_pos (Nat.pow_pos (by decide)) overflowBound_pos)
  · refine iff_of_false Bool.false_ne_true (Nat.not_lt.mpr ?_)
    have hexponent : (-x.exponent).toNat = 0 := by omega
    calc 10 ^ (-x.exponent).toNat * overflowBound
      _ = overflowBound := by rw [hexponent, Nat.pow_zero, Nat.one_mul]
      _ ≤ 10 ^ 400 := overflowBound_le_ten_pow
      _ ≤ 10 ^ x.exponent.toNat := by
        gcongr
        · decide
        · omega
      _ ≤ x.digits * 10 ^ x.exponent.toNat := Nat.le_mul_of_pos_left _ (Nat.pos_of_ne_zero hzero)
  · refine iff_of_true rfl ?_
    have hexponent : x.exponent.toNat = 0 := by omega
    calc x.digits * 10 ^ x.exponent.toNat
      _ = x.digits := by rw [hexponent, Nat.pow_zero, Nat.mul_one]
      _ < 2 ^ (x.digits.log2 + 1) := Nat.lt_log2_self
      _ ≤ 10 ^ (x.digits.log2 + 1) := Nat.pow_le_pow_left (by decide) _
      _ ≤ 10 ^ (-x.exponent).toNat := Nat.pow_le_pow_right (by decide) (by omega)
      _ ≤ 10 ^ (-x.exponent).toNat * overflowBound := Nat.le_mul_of_pos_right _ overflowBound_pos
  · exact isFinite_ofQuotient_iff _ (Nat.pow_pos (by decide)).ne'

/-! ## Integers -/

/-- A JSON number is a decimal literal. -/
theorem Spells.of_written {n : Literal} {s : List Char} (h : n.Written s) : Spells n s := by
  obtain @⟨exponent, whole, -, fraction, written⟩ := h
  have hsign : SignWritten n.negative (if n.negative then ['-'] else []) := by
    cases n.negative
    · exact .absent
    · exact .minus
  exact .mk hsign (.mk whole.2 (fun digits hdigits ↦ (fraction digits hdigits).2)
    (List.append_ne_nil_of_left_ne_nil whole.1 _) written)

theorem toList_toString_int (n : Int) : (toString n).toList = intChars n := by
  cases n with
  | ofNat m =>
    have hsign : ¬ Int.ofNat m < 0 := Int.not_lt.mpr (Int.natCast_nonneg m)
    rw [intChars, if_neg hsign]
    exact String.toList_ofList
  | negSucc m =>
    rw [intChars, if_pos (Int.negSucc_lt_zero m)]
    exact (String.toList_append ..).trans (congrArg ('-' :: ·) String.toList_ofList)

/-- The digits of an integer, with its sign in front, spell the integer. -/
theorem spells_toString_int (n : Int) : Spells (integerLiteral n) (toString n).toList := by
  rw [toList_toString_int]
  exact .of_written (integerLiteral_written n)

/-- The double of the literal of an integer is the one nearest to the integer. -/
theorem toDouble_integerLiteral (n : Int) : (decimalOf (integerLiteral n)).toDouble = .ofInt n := by
  have hvalue : decimalOf (integerLiteral n) = ⟨n < 0, n.natAbs, 0⟩ := by
    simp [decimalOf, integerLiteral, Literal.statedExponent, naturalOf_natChars]
  have hnear : ¬ 400 < (0 : Int) := by decide
  have hlog : ¬ (0 : Int) < -(400 + (n.natAbs.log2 : Int)) := by omega
  rw [hvalue]
  by_cases hzero : n.natAbs = 0
  · rw [Decimal.toDouble, if_pos hzero, Double.ofInt, Double.ofQuotient, if_pos hzero]
  · rw [Decimal.toDouble, if_neg hzero, if_neg hnear, if_neg hlog]
    exact congrArg (Double.ofQuotient (n < 0) · 1) (Nat.mul_one n.natAbs)

end ContextProvider.Number
