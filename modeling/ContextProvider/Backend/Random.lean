import ContextProvider.Backend.Basic
import ContextProvider.Backend.Join

/-!
# Random values

A scalar is drawn from a range that its field calls for, rounded to hundredths and kept inside
the range. A list holds three texts of the field, a running number and a random tag. The selector
does not matter and nothing can fail.

Draws are exact rationals and the hundredths of a value are an integer, so that rounding and
limits are exact; the value reported is the double nearest to them.
-/

namespace ContextProvider

open Number

namespace Random

/-- A range between two whole numbers, both included. -/
structure Range where
  low : Int
  high : Int
  low_le_high : low ≤ high := by decide

/-- The range of a field without a known meaning. -/
def genericRange : Range where
  low := 0
  high := 100

/-- The range that a field calls for. -/
def rangeOf (field : String) : Range :=
  if field = "temperature" ∨ field = "temp_c" then { low := -10, high := 40 }
  else if field = "temp_f" then { low := 14, high := 104 }
  else if field = "relativeHumidity" ∨ field = "relative_humidity" ∨ field = "humidity" then
    { low := 0, high := 100 }
  else if field = "pressure" ∨ field = "pressure_mb" then { low := 950, high := 1050 }
  else if field = "wind_kph" ∨ field = "windSpeed" then { low := 0, high := 120 }
  else genericRange

/-- The number of items in a list. -/
def listLength : Nat := 3

/-- The number of characters in a tag. -/
def tagLength : Nat := 8

/-- The characters of tags. -/
def tagAlphabet : List Char :=
  "ABCDEFGHIJKLMNOPQRSTUVWXYZabcdefghijklmnopqrstuvwxyz0123456789".toList

/-- A random tag. -/
structure Tag where
  chars : List Char
  length_eq : chars.length = tagLength
  alphanumeric : ∀ c ∈ chars, c ∈ tagAlphabet

/-- What is drawn for the attribute at each position of a mapping: a rational in a range, and a
tag for each item of a list. -/
structure Draws where
  scalar : Nat → (range : Range) → { q : Rat // (range.low : Rat) ≤ q ∧ q ≤ (range.high : Rat) }
  tag : Nat → Nat → Tag

/-- The integer nearest to a rational, a half going away from zero. -/
def roundHalfAway (q : Rat) : Int :=
  if 0 ≤ q then (q + 1 / 2).floor else -(-q + 1 / 2).floor

/-- The hundredths of a draw, kept inside the range. -/
def hundredths (range : Range) (q : Rat) : Int :=
  max (range.low * 100) (min (roundHalfAway (q * 100)) (range.high * 100))

/-- The value of so many hundredths. -/
def ofHundredths (n : Int) : Double :=
  .ofQuotient (n < 0) n.natAbs 100

/-- The text of the item with the given running number. -/
def itemText (field : String) (number : Nat) (tag : Tag) : String :=
  field ++ " #" ++ toString number ++ " " ++ String.ofList tag.chars

/-- The value of the attribute at a position. -/
def value (draws : Draws) (position : Nat) (spec : AttributeSpec) : AttributeValue :=
  match spec.shape with
  | .scalar =>
    let range := rangeOf spec.field
    .number (ofHundredths (hundredths range (draws.scalar position range).val))
  | .list =>
    .list ((List.range listLength).map fun i ↦
      .string (itemText spec.field (i + 1) (draws.tag position (i + 1))))

/-- The backend of random values. -/
def backend (draws : Draws) : Backend where
  kind := .random
  fetch mapping _ := .silent <| joinNow <| mapping.specs.mapIdx fun position spec ↦
    .ok ⟨spec.field, value draws position spec⟩

/-! ## Draws from random words -/

/-- The rational of a range that is nearest to a rational. -/
def Range.clamp (range : Range) (q : Rat) : Rat :=
  if q ≤ range.low then range.low else if range.high ≤ q then range.high else q

theorem Range.low_le_clamp_le_high (range : Range) (q : Rat) :
    (range.low : Rat) ≤ range.clamp q ∧ range.clamp q ≤ (range.high : Rat) := by
  have h : (range.low : Rat) ≤ (range.high : Rat) := Rat.intCast_le_intCast.mpr range.low_le_high
  unfold Range.clamp
  grind

/-- A rational in a range from a random word of 32 bits. -/
def scalarOfWord (word : UInt32) (range : Range) :
    { q : Rat // (range.low : Rat) ≤ q ∧ q ≤ (range.high : Rat) } :=
  let width : Int := range.high - range.low
  ⟨range.clamp (range.low + mkRat (width * word.toNat) 0xFFFFFFFF),
    range.low_le_clamp_le_high _⟩

/-- The character of tags that a random word stands for. -/
def tagChar (word : UInt32) : Char :=
  tagAlphabet.get ⟨word.toNat % tagAlphabet.length, Nat.mod_lt _ (by decide)⟩

/-- The tag of eight random words. -/
def tagOfWords (words : Nat → UInt32) : Tag where
  chars := (List.range tagLength).map fun i ↦ tagChar (words i)
  length_eq := by simp
  alphanumeric := by
    intro c hc
    obtain ⟨i, -, rfl⟩ := List.mem_map.mp hc
    exact List.get_mem _ _

/-- The draws of a supply of random words, addressed by position, item and character. -/
def Draws.ofWords (words : Nat → Nat → Nat → UInt32) : Draws where
  scalar position range := scalarOfWord (words position 0 0) range
  tag position item := tagOfWords (words position item)

end Random

end ContextProvider
