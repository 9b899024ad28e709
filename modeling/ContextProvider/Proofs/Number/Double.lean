import ContextProvider.Number.Double
import Mathlib.Tactic.GCongr
import Mathlib.Tactic.Positivity

/-!
# Finite doubles

A quotient has a finite double exactly if it lies below the middle between the largest finite
double and the next power of two. The exponent that is chosen for it makes the rounded quotient fill
the mantissa: the bit lengths of both parts leave two candidates, the quotient at the smaller one
decides, and one step up halves it.
-/

namespace ContextProvider.Number

/-! ## Rounding -/

theorem div_le_roundHalfEven (num den : Nat) : num / den ≤ roundHalfEven num den := by
  simp only [roundHalfEven]
  split
  · exact le_rfl
  · split <;> omega

theorem roundHalfEven_le (num den : Nat) : roundHalfEven num den ≤ num / den + 1 := by
  simp only [roundHalfEven]
  split
  · exact Nat.le_succ _
  · split <;> omega

/-- A quotient is rounded to less than an even natural exactly if it lies below the half in front
of that natural, since the half itself goes up. -/
theorem roundHalfEven_lt_iff {num den k : Nat} (hden : 0 < den) (hk : k % 2 = 0) :
    roundHalfEven num den < k ↔ 2 * num + den < 2 * (den * k) := by
  have hnum : den * (num / den) + num % den = num := Nat.div_add_mod num den
  have hrest : num % den < den := Nat.mod_lt num hden
  have hfloor := div_le_roundHalfEven num den
  have hceil := roundHalfEven_le num den
  rcases Nat.lt_trichotomy (num / den + 1) k with hbelow | heq | habove
  · have : den * (num / den + 2) ≤ den * k := Nat.mul_le_mul_left den hbelow
    rw [Nat.mul_add] at this
    omega
  · have : den * (num / den) + den = den * k := by rw [← heq, Nat.mul_add, Nat.mul_one]
    have hup : roundHalfEven num den < k ↔ 2 * (num % den) < den := by
      simp only [roundHalfEven]
      split <;> [skip; split] <;> omega
    omega
  · have : den * k ≤ den * (num / den) := Nat.mul_le_mul_left den (by omega)
    omega

/-! ## Scaled quotients -/

/-- The whole part of a quotient at an exponent. -/
def wholeAt (num den : Nat) (exponent : Int) : Nat :=
  num * 2 ^ (-exponent).toNat / (den * 2 ^ exponent.toNat)

section

variable {num den : Nat}

theorem wholeAt_succ (num den : Nat) (exponent : Int) :
    wholeAt num den (exponent + 1) = wholeAt num den exponent / 2 := by
  rw [wholeAt, wholeAt, Nat.div_div_eq_div_mul]
  rcases Int.lt_or_le exponent 0 with hneg | hpos
  · have hdown : (-exponent).toNat = (-(exponent + 1)).toNat + 1 := by omega
    have hzero : (exponent + 1).toNat = exponent.toNat := by omega
    rw [hdown, hzero, Nat.pow_succ, ← Nat.mul_assoc, Nat.mul_div_mul_right _ _ Nat.two_pos]
  · have hup : (exponent + 1).toNat = exponent.toNat + 1 := by omega
    have hzero : (-(exponent + 1)).toNat = (-exponent).toNat := by omega
    rw [hup, hzero, Nat.pow_succ, ← Nat.mul_assoc]

theorem wholeAt_ofNat (num den exponent : Nat) :
    wholeAt num den exponent = num / (den * 2 ^ exponent) := by
  simp [wholeAt]

theorem mantissaAt_ofNat (num den exponent : Nat) :
    mantissaAt num den exponent = roundHalfEven num (den * 2 ^ exponent) := by
  simp [mantissaAt, scaledQuotient]

theorem wholeAt_le_wholeAt (num den : Nat) {low high : Int} (h : low ≤ high) :
    wholeAt num den high ≤ wholeAt num den low := by
  induction high, h using Int.leInduction with
  | base => exact Nat.le_refl _
  | succ high _ ih =>
    rw [wholeAt_succ]
    exact (Nat.div_le_self _ _).trans ih

theorem wholeAt_lt (hden : den ≠ 0) {exponent : Int} {k : Nat}
    (h : (num.log2 : Int) + 1 - den.log2 ≤ exponent + k) : wholeAt num den exponent < 2 ^ k := by
  apply Nat.div_lt_of_lt_mul
  calc num * 2 ^ (-exponent).toNat
    _ < 2 ^ (num.log2 + 1) * 2 ^ (-exponent).toNat :=
      Nat.mul_lt_mul_of_pos_right Nat.lt_log2_self (Nat.two_pow_pos _)
    _ = 2 ^ (num.log2 + 1 + (-exponent).toNat) := by rw [← Nat.pow_add]
    _ ≤ 2 ^ (den.log2 + exponent.toNat + k) := Nat.pow_le_pow_right (by decide) (by omega)
    _ = 2 ^ den.log2 * 2 ^ exponent.toNat * 2 ^ k := by rw [Nat.pow_add, Nat.pow_add]
    _ ≤ den * 2 ^ exponent.toNat * 2 ^ k := by
      gcongr
      exact Nat.log2_self_le hden

theorem le_wholeAt (hnum : num ≠ 0) (hden : den ≠ 0) {exponent : Int} {k : Nat}
    (h : exponent + k ≤ (num.log2 : Int) - den.log2 - 1) : 2 ^ k ≤ wholeAt num den exponent := by
  have hpos : 0 < den * 2 ^ exponent.toNat := by positivity
  rw [wholeAt, Nat.le_div_iff_mul_le hpos]
  calc 2 ^ k * (den * 2 ^ exponent.toNat)
    _ ≤ 2 ^ k * (2 ^ (den.log2 + 1) * 2 ^ exponent.toNat) := by
      gcongr
      exact Nat.lt_log2_self.le
    _ = 2 ^ (k + (den.log2 + 1 + exponent.toNat)) := by rw [← Nat.pow_add, ← Nat.pow_add]
    _ ≤ 2 ^ (num.log2 + (-exponent).toNat) := Nat.pow_le_pow_right (by decide) (by omega)
    _ = 2 ^ num.log2 * 2 ^ (-exponent).toNat := by rw [Nat.pow_add]
    _ ≤ num * 2 ^ (-exponent).toNat := by
      gcongr
      exact Nat.log2_self_le hnum

/-- The lower of the two exponents between which the bit lengths leave the choice. -/
def lowExponent (num den : Nat) : Int :=
  max ((num.log2 : Int) - (den.log2 : Int) - 53) (-1074)

theorem fillingExponent_eq (num den : Nat) : fillingExponent num den =
    if wholeAt num den (lowExponent num den) < 2 ^ 53 then lowExponent num den
    else lowExponent num den + 1 := rfl

/-- At the chosen exponent the quotient is less than a mantissa can be, and it fills the mantissa
unless the exponent is the smallest one. -/
theorem wholeAt_fillingExponent (hnum : num ≠ 0) (hden : den ≠ 0) :
    wholeAt num den (fillingExponent num den) < 2 ^ 53 ∧
      (2 ^ 52 ≤ wholeAt num den (fillingExponent num den) ∨ fillingExponent num den = -1074) := by
  have hlow : lowExponent num den = max ((num.log2 : Int) - (den.log2 : Int) - 53) (-1074) := rfl
  rw [fillingExponent_eq]
  split
  · rename_i hfits
    refine ⟨hfits, ?_⟩
    by_cases hsmallest : lowExponent num den = -1074
    · exact .inr hsmallest
    · exact .inl (le_wholeAt hnum hden (by omega))
  · rename_i hlarge
    have hbound : wholeAt num den (lowExponent num den) < 2 ^ 54 :=
      wholeAt_lt hden (by omega)
    rw [wholeAt_succ]
    exact ⟨by omega, .inl (by omega)⟩

theorem le_fillingExponent (num den : Nat) : -1074 ≤ fillingExponent num den := by
  have hlow : lowExponent num den = max ((num.log2 : Int) - (den.log2 : Int) - 53) (-1074) := rfl
  rw [fillingExponent_eq]
  split <;> omega

/-! ## Overflow -/

theorem Double.isFinite_iff {x : Double} : x.isFinite ↔ ∃ value, x = .finite value := by
  cases x <;> simp [isFinite, finite?]

theorem Double.isFinite_dite {p : Prop} [Decidable p] {value : p → FiniteDouble} {negative : Bool} :
    (if h : p then Double.finite (value h) else .infinite negative).isFinite ↔ p := by
  split <;> simp [isFinite, finite?, *]

/-- The double of a quotient is finite unless its exponent, with a carry out of the mantissa
counted in, is too large. -/
theorem isFinite_ofQuotient_iff_exponent (negative : Bool) (hnum : num ≠ 0) (hden : den ≠ 0) :
    (Double.ofQuotient negative num den).isFinite ↔
      fillingExponent num den ≤ 970 ∨
        (fillingExponent num den = 971 ∧
          mantissaAt num den (fillingExponent num den) < 2 ^ 53) := by
  have hleast := le_fillingExponent num den
  obtain ⟨hfits, hfills⟩ := wholeAt_fillingExponent hnum hden
  have hfloor : wholeAt num den (fillingExponent num den) ≤
    mantissaAt num den (fillingExponent num den) := div_le_roundHalfEven _ _
  have hceil : mantissaAt num den (fillingExponent num den) ≤
    wholeAt num den (fillingExponent num den) + 1 := roundHalfEven_le _ _
  rw [Double.ofQuotient, if_neg hnum, Double.isFinite_dite, IsCanonical]
  simp only [Nat.pow_eq]
  split <;> omega

/-- The least magnitude that has no finite double: the middle between the largest finite double
and the next power of two. -/
def overflowBound : Nat :=
  (2 ^ 54 - 1) * 2 ^ 970

/-- A quotient has a finite double exactly below that magnitude. -/
theorem isFinite_ofQuotient_iff (negative : Bool) (hden : den ≠ 0) :
    (Double.ofQuotient negative num den).isFinite ↔ num < den * overflowBound := by
  have hunit : 0 < den * 2 ^ 970 := Nat.mul_pos (Nat.pos_of_ne_zero hden) (pow_pos Nat.two_pos 970)
  have hbound : den * overflowBound = (2 ^ 54 - 1) * (den * 2 ^ 970) := Nat.mul_left_comm _ _ _
  have hdouble : den * 2 ^ 971 = 2 * (den * 2 ^ 970) := by
    rw [pow_succ, mul_comm (2 ^ 970) 2, mul_left_comm]
  rw [hbound]
  by_cases hnum : num = 0
  · subst hnum
    rw [Double.ofQuotient, if_pos rfl]
    exact iff_of_true rfl (by omega)
  obtain ⟨hfits, hfills⟩ := wholeAt_fillingExponent hnum hden
  rw [isFinite_ofQuotient_iff_exponent negative hnum hden]
  generalize fillingExponent num den = exponent at hfits hfills
  rcases Int.lt_trichotomy exponent 971 with hsmall | rfl | hlarge
  · have hwhole : num / (den * 2 ^ 970) < 2 ^ 53 := by
      rw [← wholeAt_ofNat]
      exact (wholeAt_le_wholeAt num den (by omega)).trans_lt hfits
    rw [Nat.div_lt_iff_lt_mul hunit] at hwhole
    omega
  · have hround : mantissaAt num den 971 = roundHalfEven num (den * 2 ^ 971) :=
      mantissaAt_ofNat num den 971
    rw [hround, roundHalfEven_lt_iff (by omega) (by decide), hdouble]
    omega
  · have hhalf : 2 ^ 52 ≤ wholeAt num den 971 / 2 := by
      rw [← wholeAt_succ]
      exact (hfills.resolve_right (by omega)).trans (wholeAt_le_wholeAt num den hlarge)
    have hwhole : 2 ^ 53 ≤ num / (den * 2 ^ 971) := by
      rw [← wholeAt_ofNat num den 971, Nat.cast_ofNat]
      omega
    rw [Nat.le_div_iff_mul_le (by omega), hdouble] at hwhole
    omega

/-- A quotient below `2 ^ 200` has a finite double. -/
theorem exists_ofQuotient_eq_finite (negative : Bool) (hden : den ≠ 0)
    (h : num < den * 2 ^ 200) : ∃ x, Double.ofQuotient negative num den = .finite x := by
  have hbound : 2 ^ 200 ≤ overflowBound := calc
    2 ^ 200 ≤ 2 ^ 970 := by gcongr <;> decide
    _ ≤ overflowBound := Nat.le_mul_of_pos_left _ (by decide)
  rw [← Double.isFinite_iff, isFinite_ofQuotient_iff negative hden]
  exact h.trans_le (Nat.mul_le_mul_left den hbound)

end

end ContextProvider.Number
