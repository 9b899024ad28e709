import ContextProvider.Number.Decimal
import ContextProvider.Json.Numeric

/-!
# Dates and times

A moment is a date, a time of day or both, and with both there may be an offset. It is printed in
one form: a capital letter between date and time, at most nine decimals of a second without zeros
at the end, and an offset of zero as it was given.
-/

namespace ContextProvider.Toml

open Number

/-- A number of exactly so many digits that lies within bounds, and what follows it. -/
def fixedDigits? (count low high : Nat) (s : List Char) : Option (Nat × List Char) :=
  let digits := s.take count
  if digits.length = count ∧ digits.all isDigit then
    let n := naturalOf digits
    if low ≤ n ∧ n ≤ high then some (n, s.drop count) else none
  else none

/-- What follows a character. -/
def afterChar? (c : Char) : List Char → Option (List Char)
  | d :: rest => if c = d then some rest else none
  | [] => none

/-- A number with zeros in front up to a length. -/
def padded (length n : Nat) : List Char :=
  let digits := Json.natChars n
  List.replicate (length - digits.length) '0' ++ digits

/-- The number of days in a month. -/
def daysIn (year month : Nat) : Nat :=
  if month = 2 then
    if year % 4 = 0 ∧ (year % 100 ≠ 0 ∨ year % 400 = 0) then 29 else 28
  else if month = 4 ∨ month = 6 ∨ month = 9 ∨ month = 11 then 30
  else 31

/-- A date as it is printed, and what follows it. -/
def readDate (s : List Char) : Option (List Char × List Char) := do
  let (year, s) ← fixedDigits? 4 0 9999 s
  let s ← afterChar? '-' s
  let (month, s) ← fixedDigits? 2 1 12 s
  let s ← afterChar? '-' s
  let (day, s) ← fixedDigits? 2 1 (daysIn year month) s
  return (padded 4 year ++ '-' :: padded 2 month ++ '-' :: padded 2 day, s)

/-- The decimals of a second as they are printed. -/
def decimalsText (digits : List Char) : List Char :=
  let kept := ((digits.take 9).reverse.dropWhile (· == '0')).reverse
  if kept.isEmpty then [] else '.' :: kept

/-- Decimals of a second as they are printed, and what follows them. -/
def readDecimals (s : List Char) : List Char × List Char :=
  match s with
  | '.' :: rest =>
    let digits := rest.takeWhile isDigit
    if digits.isEmpty then ([], s) else (decimalsText digits, rest.dropWhile isDigit)
  | _ => ([], s)

/-- A time of day as it is printed, and what follows it. -/
def readTime (s : List Char) : Option (List Char × List Char) := do
  let (hour, s) ← fixedDigits? 2 0 23 s
  let s ← afterChar? ':' s
  let (minute, s) ← fixedDigits? 2 0 59 s
  let s ← afterChar? ':' s
  let (second, s) ← fixedDigits? 2 0 60 s
  let (decimals, s) := readDecimals s
  return (padded 2 hour ++ ':' :: padded 2 minute ++ ':' :: padded 2 second ++ decimals, s)

/-- The hours and minutes of an offset, and what follows them. -/
def readOffsetTime (s : List Char) : Option ((Nat × Nat) × List Char) := do
  let (hours, s) ← fixedDigits? 2 0 23 s
  let s ← afterChar? ':' s
  let (minutes, s) ← fixedDigits? 2 0 59 s
  return ((hours, minutes), s)

/-- An offset as it is printed, and what follows it; an offset of zero has no minus. -/
def readOffset (s : List Char) : List Char × List Char :=
  match s with
  | 'Z' :: rest => (['Z'], rest)
  | 'z' :: rest => (['Z'], rest)
  | sign :: rest =>
    if sign = '+' ∨ sign = '-' then
      match readOffsetTime rest with
      | some ((hours, minutes), after) =>
        let sign := if hours = 0 ∧ minutes = 0 then '+' else sign
        (sign :: (padded 2 hours ++ ':' :: padded 2 minutes), after)
      | none => ([], s)
    else ([], s)
  | [] => ([], s)

/-- A character between date and time. -/
def isTimeMark (c : Char) : Bool :=
  c = 'T' || c = 't' || c = ' '

/-- A moment as it is printed, and what follows it. -/
def readMoment (s : List Char) : Option (String × List Char) :=
  match readDate s with
  | none => (readTime s).map fun (time, after) ↦ (String.ofList time, after)
  | some (date, afterDate) =>
    let dateOnly := some (String.ofList date, afterDate)
    match afterDate with
    | mark :: rest =>
      if isTimeMark mark then
        match readTime rest with
        | some (time, afterTime) =>
          let (offset, after) := readOffset afterTime
          some (String.ofList (date ++ 'T' :: time ++ offset), after)
        | none => dateOnly
      else dateOnly
    | [] => dateOnly

end ContextProvider.Toml
