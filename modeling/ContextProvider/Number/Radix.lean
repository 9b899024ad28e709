/-!
# Digits in other bases

A hexadecimal digit is an ASCII digit or one of the six letters in either case. Bases up to
sixteen share these digits, the smaller ones having only the first of them.
-/

namespace ContextProvider.Number

/-- The value of a hexadecimal digit. -/
def hexDigit? (c : Char) : Option Nat :=
  if '0' ≤ c ∧ c ≤ '9' then some (c.toNat - '0'.toNat)
  else if 'a' ≤ c ∧ c ≤ 'f' then some (c.toNat - 'a'.toNat + 10)
  else if 'A' ≤ c ∧ c ≤ 'F' then some (c.toNat - 'A'.toNat + 10)
  else none

/-- The value of a digit in a base of at most sixteen. -/
def digitOf? (base : Nat) (c : Char) : Option Nat :=
  (hexDigit? c).filter (· < base)

/-- The number that digits spell in a base of at most sixteen. -/
def radixValue? (base : Nat) (digits : List Char) : Option Nat :=
  digits.foldlM (fun value c ↦ (digitOf? base c).map (value * base + ·)) 0

end ContextProvider.Number
