import ContextProvider.Proofs.Backend.Values
import ContextProvider.Proofs.Number.Nearest
import Mathlib.Data.List.Forall2

/-!
# Drawn values

Every attribute of a mapping has a drawn value, whatever is drawn. A scalar is a whole number of
hundredths that lies in the range of its field, no further from the draw than half a hundredth: the
ends of a range are whole numbers, so that rounding a draw never leaves the range and keeping it
inside takes nothing away. The number reported is the double nearest to it, which lies in the range
as well. A list has its three texts, and no selector changes anything.
-/

namespace ContextProvider.Random

open Number

/-! ## Rounding to hundredths -/

/-- The nearest integer is at most a half away. -/
theorem abs_roundHalfAway_sub_le (q : ℚ) : |(roundHalfAway q : ℚ) - q| ≤ 1 / 2 := by
  have hfloor (p : ℚ) : |((p + 1 / 2).floor : ℚ) - p| ≤ 1 / 2 := by
    have hle := Rat.floor_le (p + 1 / 2)
    have hlt := Rat.lt_floor (x := p + 1 / 2)
    rw [abs_le]
    constructor <;> linarith
  unfold roundHalfAway
  split
  · exact hfloor q
  · have hmirror : ((-(-q + 1 / 2).floor : Int) : ℚ) - q = -(((-q + 1 / 2).floor : ℚ) - -q) := by
      push_cast
      ring
    rw [hmirror, abs_neg]
    exact hfloor (-q)

variable {range : Range} {q : ℚ}

/-- Hundredths of a draw from a range with whole ends are not cut off. -/
theorem hundredths_eq_roundHalfAway (hlow : range.low ≤ q) (hhigh : q ≤ range.high) :
    hundredths range q = roundHalfAway (q * 100) := by
  obtain ⟨hbelow, habove⟩ := abs_le.mp (abs_roundHalfAway_sub_le (q * 100))
  have hleast : range.low * 100 - 1 < roundHalfAway (q * 100) := by
    have : (range.low : ℚ) * 100 - 1 < roundHalfAway (q * 100) := by linarith
    exact_mod_cast this
  have hmost : roundHalfAway (q * 100) < range.high * 100 + 1 := by
    have : (roundHalfAway (q * 100) : ℚ) < range.high * 100 + 1 := by linarith
    exact_mod_cast this
  rw [hundredths, min_eq_left (by omega), max_eq_right (by omega)]

/-- Keeping hundredths inside a range is keeping their quotient inside. -/
theorem hundredths_div_eq_clamp (range : Range) (q : ℚ) :
    (hundredths range q : ℚ) / 100 = range.clamp (roundHalfAway (q * 100) / 100) := by
  have hordered := range.low_le_high
  have hlow : (roundHalfAway (q * 100) : ℚ) / 100 ≤ range.low ↔
      roundHalfAway (q * 100) ≤ range.low * 100 := by
    rw [div_le_iff₀ (by norm_num)]
    exact_mod_cast Iff.rfl
  have hhigh : (range.high : ℚ) ≤ roundHalfAway (q * 100) / 100 ↔
      range.high * 100 ≤ roundHalfAway (q * 100) := by
    rw [le_div_iff₀ (by norm_num)]
    exact_mod_cast Iff.rfl
  rw [Range.clamp, hundredths]
  split
  · rename_i hbelow
    rw [max_eq_left (min_le_of_left_le (hlow.mp hbelow))]
    push_cast
    ring
  · rename_i hbelow
    rw [hlow, not_le] at hbelow
    split
    · rename_i habove
      rw [min_eq_right (hhigh.mp habove), max_eq_right (by omega)]
      push_cast
      ring
    · rename_i habove
      rw [hhigh, not_le] at habove
      rw [min_eq_left habove.le, max_eq_right hbelow.le]

theorem hundredths_mem_range (range : Range) (q : ℚ) :
    range.low ≤ (hundredths range q : ℚ) / 100 ∧ (hundredths range q : ℚ) / 100 ≤ range.high := by
  rw [hundredths_div_eq_clamp]
  exact range.low_le_clamp_le_high _

/-- Rounding moves a draw by half a hundredth at most. -/
theorem abs_hundredths_div_sub_le (hlow : range.low ≤ q) (hhigh : q ≤ range.high) :
    |(hundredths range q : ℚ) / 100 - q| ≤ 1 / 200 := by
  obtain ⟨hbelow, habove⟩ := abs_le.mp (abs_roundHalfAway_sub_le (q * 100))
  rw [hundredths_eq_roundHalfAway hlow hhigh, abs_le]
  constructor <;> linarith

/-! ## The double of hundredths -/

/-- The double of hundredths is nearest to them. -/
theorem isNearest_of_ofHundredths {n : Int} {x : FiniteDouble} (h : ofHundredths n = .finite x) :
    x.IsNearest (n / 100) := by
  have hsigned : signed (n < 0) ((n.natAbs : ℚ) / (100 : Nat)) = n / 100 := by
    rcases Int.lt_or_le n 0 with hneg | hpos
    · simp [signed, hneg, abs_of_neg, neg_div]
    · simp [signed, Int.not_lt.mpr hpos, abs_of_nonneg, hpos]
  rw [← hsigned]
  exact isNearest_of_ofQuotient (by decide) h

/-- Ends of ranges are doubles, so the double of hundredths in a range lies in the range. -/
theorem toRat_mem_range {field : String} {n : Int} {x : FiniteDouble} (h : x.IsNearest (n / 100))
    (hlow : (rangeOf field).low ≤ (n : ℚ) / 100) (hhigh : (n : ℚ) / 100 ≤ (rangeOf field).high) :
    (rangeOf field).low ≤ x.toRat ∧ x.toRat ≤ (rangeOf field).high := by
  have hbounds := rangeOf_bounds field
  have hordered := (rangeOf field).low_le_high
  obtain ⟨low, hlow'⟩ := exists_toRat_eq_intCast (n := (rangeOf field).low) (by omega)
  obtain ⟨high, hhigh'⟩ := exists_toRat_eq_intCast (n := (rangeOf field).high) (by omega)
  have hbetween := h.between (hlow'.trans_le hlow) (hhigh.trans_eq hhigh'.symm)
  rwa [hlow', hhigh'] at hbetween

/-! ## Values -/

/-- The values that may be reported for the attribute at a position: for a scalar, the double
nearest to hundredths; for a list, its three texts. -/
inductive Sampled (draws : Draws) (position : Nat) (spec : AttributeSpec) : AttributeValue → Prop
  | scalar {n : Int} {x : FiniteDouble} (shape : spec.shape = .scalar)
      (least : (rangeOf spec.field).low ≤ (n : ℚ) / 100)
      (most : (n : ℚ) / 100 ≤ (rangeOf spec.field).high)
      (close : |(n : ℚ) / 100 - (draws.scalar position (rangeOf spec.field)).val| ≤ 1 / 200)
      (nearest : x.IsNearest (n / 100))
      (inRange : (rangeOf spec.field).low ≤ x.toRat ∧ x.toRat ≤ (rangeOf spec.field).high) :
      Sampled draws position spec (.scalar (.number (.double x)))
  | list (shape : spec.shape = .list) :
      Sampled draws position spec (.list [
        .string (spec.field ++ " #1 " ++ String.ofList (draws.tag position 1).chars),
        .string (spec.field ++ " #2 " ++ String.ofList (draws.tag position 2).chars),
        .string (spec.field ++ " #3 " ++ String.ofList (draws.tag position 3).chars)])

theorem itemText_eq {number : Nat} (mark : String) (h : " #" ++ toString number ++ " " = mark)
    (field : String) (tag : Tag) :
    itemText field number tag = field ++ mark ++ String.ofList tag.chars := by
  simp only [← h, itemText, String.append_assoc]

theorem sampled_value (draws : Draws) (position : Nat) (spec : AttributeSpec) :
    Sampled draws position spec (value draws position spec) := by
  obtain ⟨name, field, shape⟩ := spec
  cases shape with
  | scalar =>
    obtain ⟨hlow, hhigh⟩ := (draws.scalar position (rangeOf field)).property
    obtain ⟨x, hx⟩ :=
      exists_ofHundredths_eq_finite field (draws.scalar position (rangeOf field)).val
    obtain ⟨hleast, hmost⟩ :=
      hundredths_mem_range (rangeOf field) (draws.scalar position (rangeOf field)).val
    have hnearest := isNearest_of_ofHundredths hx
    have hvalue : value draws position ⟨name, field, .scalar⟩ = .scalar (.number (.double x)) := by
      simp only [value, hx, AttributeValue.number]
    rw [hvalue]
    exact .scalar rfl hleast hmost (abs_hundredths_div_sub_le hlow hhigh) hnearest
      (toRat_mem_range hnearest hleast hmost)
  | list =>
    have hvalue : value draws position ⟨name, field, .list⟩ = .list [
        .string (itemText field 1 (draws.tag position 1)),
        .string (itemText field 2 (draws.tag position 2)),
        .string (itemText field 3 (draws.tag position 3))] := rfl
    rw [hvalue, itemText_eq " #1 " rfl, itemText_eq " #2 " rfl, itemText_eq " #3 " rfl]
    exact .list rfl

/-- Random values never fail: every attribute has its value, in its place and from its field, within
the range that the field calls for. The selector plays no part, and nothing is asked. -/
theorem sampled_in_order (draws : Draws) (m : Mapping) (selector : Selector) :
    (∃ values, ((backend draws).fetch m selector).result = .ok values ∧
      List.Forall₂ (fun (spec, position) raw ↦
        raw.field = spec.field ∧ Sampled draws position spec raw.value) m.specs.zipIdx values) ∧
    ((backend draws).fetch m selector).questions = [] ∧
    ∀ other, (backend draws).fetch m other = (backend draws).fetch m selector := by
  refine ⟨⟨_, fetch_result draws m selector, ?_⟩, rfl, fun _ ↦ rfl⟩
  rw [List.mapIdx_eq_zipIdx_map, List.forall₂_map_right_iff, List.forall₂_same]
  exact fun _ _ ↦ ⟨rfl, sampled_value draws _ _⟩

end ContextProvider.Random
