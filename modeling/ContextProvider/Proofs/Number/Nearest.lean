import ContextProvider.Proofs.Number.Double
import Mathlib.Algebra.Order.Field.Power
import Mathlib.Data.Rat.Cast.Order
import Mathlib.Tactic.FieldSimp
import Mathlib.Tactic.Linarith
import Mathlib.Tactic.Ring
import Mathlib.Tactic.Zify

/-!
# Nearest doubles

A finite double is a rational, and the double of a quotient is one that no other finite double is
nearer to. Rounding settles this among the doubles with the same exponent or a larger one; doubles
with a smaller exponent lie below the quotient and below a double with the same exponent. The
integers with fewer than 54 bits are doubles, so a quotient between two of them has its double
between them too.
-/

namespace ContextProvider.Number

/-! ## The rational of a double -/

/-- The magnitude of a finite double. -/
def FiniteDouble.magnitude (x : FiniteDouble) : ℚ :=
  x.mantissa * 2 ^ x.exponent

/-- The rational with the given sign and magnitude. -/
def signed (negative : Bool) (magnitude : ℚ) : ℚ :=
  if negative then -magnitude else magnitude

/-- The rational that a finite double is. -/
def FiniteDouble.toRat (x : FiniteDouble) : ℚ :=
  signed x.negative x.magnitude

/-- No finite double is nearer to the rational. -/
def FiniteDouble.IsNearest (x : FiniteDouble) (q : ℚ) : Prop :=
  ∀ y : FiniteDouble, |x.toRat - q| ≤ |y.toRat - q|

theorem FiniteDouble.magnitude_nonneg (x : FiniteDouble) : 0 ≤ x.magnitude := by
  unfold magnitude
  positivity

theorem abs_signed {negative : Bool} {magnitude : ℚ} (h : 0 ≤ magnitude) :
    |signed negative magnitude| = magnitude := by
  cases negative <;> simp [signed, abs_of_nonneg h]

theorem abs_signed_sub_signed (negative : Bool) (p q : ℚ) :
    |signed negative p - signed negative q| = |p - q| := by
  cases negative
  · rfl
  · rw [signed, signed, if_pos rfl, if_pos rfl, neg_sub_neg, abs_sub_comm]

/-- Between rationals that are doubles, the nearest double is between them. -/
theorem FiniteDouble.IsNearest.between {x low high : FiniteDouble} {q : ℚ} (h : x.IsNearest q)
    (hlow : low.toRat ≤ q) (hhigh : q ≤ high.toRat) :
    low.toRat ≤ x.toRat ∧ x.toRat ≤ high.toRat := by
  have hbelow := h low
  have habove := h high
  rw [abs_of_nonpos (sub_nonpos.mpr hlow)] at hbelow
  rw [abs_of_nonneg (sub_nonneg.mpr hhigh)] at habove
  constructor
  · have := neg_le_abs (x.toRat - q)
    linarith
  · have := le_abs_self (x.toRat - q)
    linarith

/-! ## Rounding -/

/-- Rounding goes to the multiple below or to the one above, where the rest allows it. -/
theorem mul_roundHalfEven_cases (num den : Nat) :
    (2 * (num % den) ≤ den ∧ den * roundHalfEven num den = den * (num / den)) ∨
      (den ≤ 2 * (num % den) ∧ den * roundHalfEven num den = den * (num / den) + den) := by
  have hnext : den * (num / den + 1) = den * (num / den) + den := Nat.mul_succ den _
  simp only [roundHalfEven]
  split
  · exact .inl ⟨by omega, rfl⟩
  · split
    · exact .inr ⟨by omega, hnext⟩
    · rcases Nat.mod_two_eq_zero_or_one (num / den) with heven | hodd
      · exact .inl ⟨by omega, by rw [heven, Nat.add_zero]⟩
      · exact .inr ⟨by omega, by rw [hodd, hnext]⟩

/-- Of the multiples of a natural, the rounded one is one of the nearest. -/
theorem natAbs_mul_roundHalfEven_sub_le {num den : Nat} (hden : 0 < den) (k : Nat) :
    ((den * roundHalfEven num den : Nat) - num : ℤ).natAbs ≤
      ((den * k : Nat) - num : ℤ).natAbs := by
  have hnum : den * (num / den) + num % den = num := Nat.div_add_mod num den
  have hrest : num % den < den := Nat.mod_lt num hden
  have hside : den * k ≤ den * (num / den) ∨ den * (num / den) + den ≤ den * k := by
    rcases Nat.lt_or_ge (num / den) k with habove | hbelow
    · exact .inr (Nat.mul_succ den _ ▸ Nat.mul_le_mul_left den habove)
    · exact .inl (Nat.mul_le_mul_left den hbelow)
  have hvalue := mul_roundHalfEven_cases num den
  omega

/-- Of the naturals, the rounded quotient is one of the nearest. -/
theorem abs_roundHalfEven_sub_le {num den : Nat} (hden : 0 < den) (k : Nat) :
    |(roundHalfEven num den : ℚ) - num / den| ≤ |(k : ℚ) - num / den| := by
  have hpos : (0 : ℚ) < den := by exact_mod_cast hden
  have hscale (n : Nat) :
      |(n : ℚ) - num / den| = ((den * n : Nat) - num : ℤ).natAbs / den := by
    have hquotient : (n : ℚ) - num / den = (((den * n : Nat) - num : ℤ) : ℚ) / den := by
      push_cast
      field_simp
    rw [hquotient, abs_div, abs_of_pos hpos, Nat.cast_natAbs, Int.cast_abs]
  rw [hscale, hscale]
  gcongr
  exact natAbs_mul_roundHalfEven_sub_le hden k

section

variable {num den : Nat}

/-- A quotient at an exponent is the quotient without that power of two. -/
theorem scaled_div_scaled (num den : Nat) (exponent : Int) :
    ((num * 2 ^ (-exponent).toNat : Nat) : ℚ) / (den * 2 ^ exponent.toNat : Nat) =
      num / den / 2 ^ exponent := by
  obtain ⟨n, rfl | rfl⟩ := Int.eq_nat_or_neg exponent
  · simp [div_div]
  · simp [mul_div_right_comm]

/-- Of the multiples of a power of two, the rounded one is one of the nearest to the quotient. -/
theorem abs_mantissaAt_mul_sub_le (hden : den ≠ 0) (exponent : Int) (k : Nat) :
    |(mantissaAt num den exponent : ℚ) * 2 ^ exponent - num / den| ≤
      |(k : ℚ) * 2 ^ exponent - num / den| := by
  have hunit : (0 : ℚ) < 2 ^ exponent := by positivity
  have hfactor (n : Nat) : |(n : ℚ) * 2 ^ exponent - num / den| =
      |(n : ℚ) - num / den / 2 ^ exponent| * 2 ^ exponent := by
    rw [← abs_of_pos hunit, ← abs_mul, abs_of_pos hunit, sub_mul, div_mul_cancel₀ _ hunit.ne']
  have hscaled : 0 < den * 2 ^ exponent.toNat := by positivity
  rw [hfactor, hfactor, ← scaled_div_scaled]
  exact mul_le_mul_of_nonneg_right (abs_roundHalfEven_sub_le hscaled k) hunit.le

/-- Of all finite doubles, the one at the chosen exponent is one of the nearest in magnitude. -/
theorem abs_mantissaAt_mul_sub_le_magnitude (hnum : num ≠ 0) (hden : den ≠ 0) (y : FiniteDouble) :
    |(mantissaAt num den (fillingExponent num den) : ℚ) * 2 ^ fillingExponent num den - num / den| ≤
      |y.magnitude - num / den| := by
  obtain ⟨hmantissa, hleast, -, -⟩ := y.canonical
  have hfills := (wholeAt_fillingExponent hnum hden).2
  generalize fillingExponent num den = exponent at hfills ⊢
  rcases Int.lt_or_le y.exponent exponent with hfine | hcoarse
  · -- The other double lies below the smallest full mantissa, and the quotient does not.
    have hfull : (2 ^ 52 : ℚ) * 2 ^ exponent ≤ num / den := by
      have hwhole := hfills.resolve_right (by omega)
      have hunit : (0 : ℚ) < 2 ^ exponent := by positivity
      rw [wholeAt, Nat.le_div_iff_mul_le (by positivity)] at hwhole
      rw [← le_div_iff₀ hunit, ← scaled_div_scaled, le_div_iff₀ (by positivity)]
      exact_mod_cast hwhole
    have hsmall : y.magnitude ≤ 2 ^ 52 * 2 ^ exponent := by
      calc y.magnitude
        _ ≤ 2 ^ 53 * 2 ^ (exponent - 1) := by
          unfold FiniteDouble.magnitude
          gcongr
          · exact_mod_cast hmantissa.le
          · exact one_le_two
          · omega
        _ = 2 ^ 52 * 2 ^ exponent := by
          rw [zpow_sub₀ two_ne_zero]
          ring
    have hround : |(mantissaAt num den exponent : ℚ) * 2 ^ exponent - num / den| ≤
        |((2 ^ 52 : Nat) : ℚ) * 2 ^ exponent - num / den| :=
      abs_mantissaAt_mul_sub_le hden exponent (2 ^ 52)
    rw [Nat.cast_pow, Nat.cast_ofNat, abs_of_nonpos (sub_nonpos.mpr hfull)] at hround
    rw [abs_of_nonpos (sub_nonpos.mpr (hsmall.trans hfull))]
    linarith
  · -- The other double is a multiple of the same power of two.
    have hmultiple : y.magnitude =
        ((y.mantissa * 2 ^ (y.exponent - exponent).toNat : Nat) : ℚ) * 2 ^ exponent := by
      obtain ⟨n, hn⟩ := Int.eq_ofNat_of_zero_le (sub_nonneg.mpr hcoarse)
      have hexponent : y.exponent = n + exponent := by omega
      rw [FiniteDouble.magnitude, hn, hexponent, zpow_add₀ two_ne_zero, zpow_natCast]
      push_cast
      rw [mul_assoc]
      rfl
    rw [hmultiple]
    exact abs_mantissaAt_mul_sub_le hden exponent _

/-- The double has the rounded magnitude, since a carry out of the mantissa goes into the
exponent. -/
theorem magnitude_of_ofQuotient_eq_finite {negative : Bool} {x : FiniteDouble} (hnum : num ≠ 0)
    (h : Double.ofQuotient negative num den = .finite x) :
    x.negative = negative ∧ x.magnitude =
      mantissaAt num den (fillingExponent num den) * 2 ^ fillingExponent num den := by
  by_cases hcarry : mantissaAt num den (fillingExponent num den) = Nat.pow 2 53
  · simp only [Double.ofQuotient, if_neg hnum, if_pos hcarry] at h
    split at h
    · cases h
      have hpower : ((Nat.pow 2 52 : Nat) : ℚ) * 2 = (Nat.pow 2 53 : Nat) := by norm_num
      refine ⟨rfl, ?_⟩
      rw [FiniteDouble.magnitude, zpow_add_one₀ two_ne_zero, mul_comm (2 ^ _) (2 : ℚ),
        ← mul_assoc, hpower, hcarry]
    · cases h
  · simp only [Double.ofQuotient, if_neg hnum, if_neg hcarry] at h
    split at h
    · cases h
      exact ⟨rfl, rfl⟩
    · cases h

/-- The double of a quotient is nearest to it. -/
theorem isNearest_of_ofQuotient {negative : Bool} {x : FiniteDouble} (hden : den ≠ 0)
    (h : Double.ofQuotient negative num den = .finite x) :
    x.IsNearest (signed negative (num / den)) := by
  intro y
  have hquotient : (0 : ℚ) ≤ num / den := by positivity
  by_cases hnum : num = 0
  · subst hnum
    rw [Double.ofQuotient, if_pos rfl] at h
    cases h
    simp [FiniteDouble.toRat, FiniteDouble.magnitude, FiniteDouble.zero, signed]
  obtain ⟨rfl, hmagnitude⟩ := magnitude_of_ofQuotient_eq_finite hnum h
  calc |x.toRat - signed x.negative (num / den)|
    _ = |x.magnitude - num / den| := abs_signed_sub_signed _ _ _
    _ ≤ |y.magnitude - num / den| := by
      rw [hmagnitude]
      exact abs_mantissaAt_mul_sub_le_magnitude hnum hden y
    _ = abs (|y.toRat| - |signed x.negative (num / den)|) := by
      rw [FiniteDouble.toRat, abs_signed y.magnitude_nonneg, abs_signed hquotient]
    _ ≤ |y.toRat - signed x.negative (num / den)| := abs_abs_sub_abs_le _ _

end

/-! ## Integers -/

/-- A natural of fewer than 54 bits is shifted to a full mantissa. -/
theorem isCanonical_shifted {n : Nat} (hne : n ≠ 0) (h : n < 2 ^ 53) :
    IsCanonical (n * 2 ^ (52 - n.log2)) (n.log2 - 52) := by
  have hlog : n.log2 ≤ 52 := Nat.lt_succ_iff.mp ((Nat.log2_lt hne).mpr h)
  have hfull : 2 ^ 52 ≤ n * 2 ^ (52 - n.log2) := by
    calc 2 ^ 52
      _ = 2 ^ n.log2 * 2 ^ (52 - n.log2) := by rw [← Nat.pow_add, Nat.add_sub_cancel' hlog]
      _ ≤ n * 2 ^ (52 - n.log2) := Nat.mul_le_mul_right _ (Nat.log2_self_le hne)
  have hfits : n * 2 ^ (52 - n.log2) < 2 ^ 53 := by
    have hbits : n.log2 + 1 + (52 - n.log2) = 53 := by omega
    calc n * 2 ^ (52 - n.log2)
      _ < 2 ^ (n.log2 + 1) * 2 ^ (52 - n.log2) :=
        Nat.mul_lt_mul_of_pos_right Nat.lt_log2_self (Nat.two_pow_pos _)
      _ = 2 ^ 53 := by rw [← Nat.pow_add, hbits]
  exact ⟨hfits, by omega, by omega, .inl hfull⟩

/-- A natural of fewer than 54 bits is the magnitude of a double, with either sign. -/
theorem exists_magnitude_eq_natCast {n : Nat} (h : n < 2 ^ 53) (negative : Bool) :
    ∃ x : FiniteDouble, x.negative = negative ∧ x.magnitude = n := by
  by_cases hzero : n = 0
  · exact ⟨.zero negative, rfl, by simp [FiniteDouble.magnitude, FiniteDouble.zero, hzero]⟩
  have hlog : n.log2 ≤ 52 := Nat.lt_succ_iff.mp ((Nat.log2_lt hzero).mpr h)
  refine ⟨⟨negative, _, _, isCanonical_shifted hzero h⟩, rfl, ?_⟩
  have hexponent : ((n.log2 : Int) - 52) = -((52 - n.log2 : Nat) : Int) := by omega
  rw [FiniteDouble.magnitude]
  push_cast
  rw [hexponent, zpow_neg, zpow_natCast, mul_assoc, mul_inv_cancel₀ (by positivity), mul_one]

/-- An integer of fewer than 54 bits is a double. -/
theorem exists_toRat_eq_intCast {n : Int} (h : n.natAbs < 2 ^ 53) :
    ∃ x : FiniteDouble, x.toRat = n := by
  obtain ⟨x, hsign, hmagnitude⟩ := exists_magnitude_eq_natCast h (n < 0)
  refine ⟨x, ?_⟩
  rw [FiniteDouble.toRat, hsign, hmagnitude]
  rcases Int.lt_or_le n 0 with hneg | hpos
  · simp [signed, hneg, abs_of_neg]
  · simp [signed, Int.not_lt.mpr hpos, abs_of_nonneg, hpos]

end ContextProvider.Number
