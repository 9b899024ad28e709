/-!
# Punycode

A label of a domain name is written in ASCII letters, digits and hyphens. Its other characters
are encoded behind the last hyphen: in increasing order, each as the distance that an enumeration
of all places for all characters has to go since the one before. Distances are numbers of variable
length, least digit first, in base 36 with thresholds that adapt to the distances so far.
-/

namespace ContextProvider.Url

/-- The number of digits. -/
def punyBase : Nat := 36

/-- The character of a digit below thirty-six. -/
def punyDigit (n : Nat) : Char :=
  if n < 26 then Char.ofNat ('a'.toNat + n) else Char.ofNat ('0'.toNat + (n - 26))

/-- The digit of a character. -/
def punyValue? (c : Char) : Option Nat :=
  if 'a' ≤ c ∧ c ≤ 'z' then some (c.toNat - 'a'.toNat)
  else if 'A' ≤ c ∧ c ≤ 'Z' then some (c.toNat - 'A'.toNat)
  else if '0' ≤ c ∧ c ≤ '9' then some (c.toNat - '0'.toNat + 26)
  else none

/-- The threshold of the digit at a place, counted in steps of the base, for a bias. -/
def punyThreshold (place bias : Nat) : Nat :=
  max 1 (min 26 (place - bias))

/-- A distance divided until it is small, and the bias gained by each division. -/
def punyDamp (distance bias : Nat) : Nat × Nat :=
  if 455 < distance then punyDamp (distance / 35) (bias + punyBase) else (distance, bias)
termination_by distance

/-- The bias after a distance, with the number of characters placed by then. -/
def punyBias (distance placed : Nat) (first : Bool) : Nat :=
  let halved := if first then distance / 700 else distance / 2
  let (rest, bias) := punyDamp (halved + halved / placed) 0
  bias + punyBase * rest / (rest + 38)

/-- The digits of a distance; the fuel is at least its number of digits. -/
def punyDigits (bias : Nat) : Nat → Nat → Nat → List Char
  | 0, _, _ => []
  | fuel + 1, place, n =>
    let threshold := punyThreshold place bias
    if n < threshold then [punyDigit n]
    else
      punyDigit (threshold + (n - threshold) % (punyBase - threshold)) ::
        punyDigits bias fuel (place + punyBase) ((n - threshold) / (punyBase - threshold))

/-! ## Writing -/

/-- The state of writing: digits, the distance gone, the bias and the characters placed. -/
structure PunyWriter where
  digits : List Char
  distance : Nat
  bias : Nat
  placed : Nat

/-- Pass a character of the label while those with a code are being placed. -/
def PunyWriter.pass (basic code : Nat) (writer : PunyWriter) (c : Char) : PunyWriter :=
  if c.toNat < code then { writer with distance := writer.distance + 1 }
  else if c.toNat = code then
    { digits := writer.digits ++
        punyDigits writer.bias (writer.distance + 1) punyBase writer.distance
      distance := 0
      bias := punyBias writer.distance (writer.placed + 1) (writer.placed == basic)
      placed := writer.placed + 1 }
  else writer

/-- Place the characters with the given codes, from the first code that may still be next. -/
def PunyWriter.place (label : List Char) (basic : Nat) :
    Nat → List Nat → PunyWriter → PunyWriter
  | _, [], writer => writer
  | next, code :: codes, writer =>
    let moved := { writer with
      distance := writer.distance + (code - next) * (writer.placed + 1) }
    let placed := label.foldl (PunyWriter.pass basic code) moved
    PunyWriter.place label basic (code + 1) codes { placed with distance := placed.distance + 1 }

/-- A character beyond ASCII. -/
def isBeyondAscii (c : Char) : Bool :=
  0x80 ≤ c.toNat

/-- The codes beyond ASCII in a label, in increasing order. -/
def codesBeyondAscii (label : List Char) : List Nat :=
  ((label.filter isBeyondAscii).map Char.toNat).mergeSort.eraseDups

/-- A label in Punycode. -/
def punyEncode (label : List Char) : List Char :=
  let basic := label.filter fun c ↦ !isBeyondAscii c
  let writer := PunyWriter.place label basic.length 0x80 (codesBeyondAscii label)
    ⟨[], 0, 72, basic.length⟩
  basic ++ (if basic.isEmpty then [] else ['-']) ++ writer.digits

/-! ## Reading -/

/-- The bound of distances and of the weights of their digits. -/
def distanceBound : Nat := 0x100000000

/-- The place that a distance in front of digits leads to from another one, after a sum with the
weight of the next digit. -/
def readDistance? (bias : Nat) (place weight sum : Nat) : List Char → Option (Nat × List Char)
  | [] => none
  | c :: rest =>
    match punyValue? c with
    | none => none
    | some digit =>
      let threshold := punyThreshold place bias
      let sum := sum + digit * weight
      if distanceBound ≤ sum then none
      else if digit < threshold then some (sum, rest)
      else
        let weight := weight * (punyBase - threshold)
        if distanceBound ≤ weight then none
        else readDistance? bias (place + punyBase) weight sum rest

/-- Place the characters that digits encode among those placed so far; the fuel is at least the
number of digits. -/
def placeAll? (code position bias : Nat) (first : Bool) (placed : List Char) :
    Nat → List Char → Option (List Char)
  | _, [] => some placed
  | 0, _ => none
  | fuel + 1, digits =>
    match readDistance? bias punyBase 1 position digits with
    | none => none
    | some (reached, rest) =>
      let total := placed.length + 1
      let code := code + reached / total
      let next := reached % total
      if h : code.isValidChar then
        placeAll? code (next + 1) (punyBias (reached - position) total first) false
          (placed.insertIdx next (Char.ofNatAux code h)) fuel rest
      else none

/-- The label that a text in Punycode stands for. A text does not begin with its last hyphen. -/
def punyDecode? (s : List Char) : Option (List Char) :=
  let digits := (s.reverse.takeWhile (· ≠ '-')).reverse
  let basic := s.take (s.length - digits.length - 1)
  if basic.any isBeyondAscii || (basic.isEmpty && s.head? == some '-') then none
  else placeAll? 0x80 0 72 true basic digits.length digits

end ContextProvider.Url
