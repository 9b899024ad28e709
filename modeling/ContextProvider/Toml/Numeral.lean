import ContextProvider.Number.Radix
import ContextProvider.Toml.Basic

/-!
# Numbers in TOML

Between any two digits there may be an underscore. An integer is decimal, with a sign and without
superfluous zeros, or hexadecimal, octal or binary behind its mark and without a sign; it has to
fit 64 bits. A float has a fraction or an exponent; it is the double nearest to it, and one that
is too large in the positive is refused. The words `inf` and `nan` are floats too.
-/

namespace ContextProvider.Toml

open Number

/-- The digits in front without their underscores, and what follows; an underscore counts only
between digits. -/
def digitsAfter (isIn : Char → Bool) : List Char → List Char × List Char
  | '_' :: c :: rest =>
    if isIn c then
      let (digits, after) := digitsAfter isIn rest
      (c :: digits, after)
    else ([], '_' :: c :: rest)
  | c :: rest =>
    if isIn c then
      let (digits, after) := digitsAfter isIn rest
      (c :: digits, after)
    else ([], c :: rest)
  | [] => ([], [])

/-- A run of digits that begins with a digit, and what follows it. -/
def digitRun? (isIn : Char → Bool) : List Char → Option (List Char × List Char)
  | c :: rest =>
    if isIn c then
      let (digits, after) := digitsAfter isIn rest
      some (c :: digits, after)
    else none
  | [] => none

/-- An integer that fits 64 bits. -/
def integerOf? (n : Int) : Option Toml :=
  if -0x8000000000000000 ≤ n ∧ n < 0x8000000000000000 then some (.integer n) else none

/-- An integer in another base than ten, behind its mark. -/
def basedInteger? (base : Nat) (s : List Char) : Option (Toml × List Char) := do
  let (digits, after) ← digitRun? (fun c ↦ (digitOf? base c).isSome) s
  let n ← radixValue? base digits
  let value ← integerOf? n
  return (value, after)

/-- The digits in front of point and exponent: a zero, or digits that do not begin with one. -/
def wholeDigits? : List Char → Option (List Char × List Char)
  | '0' :: rest => some (['0'], rest)
  | s => digitRun? isDigit s

/-- The decimals behind a point, and what follows them. -/
def decimals? : List Char → Option (List Char × List Char)
  | '.' :: rest => digitRun? isDigit rest
  | _ => none

/-- The exponent behind its mark, and what follows it. -/
def exponent? : List Char → Option (Int × List Char)
  | mark :: rest =>
    if mark = 'e' ∨ mark = 'E' then
      let (negative, unsigned) := takeSign rest
      (digitRun? isDigit unsigned).map fun (digits, after) ↦
        (if negative then -(naturalOf digits : Int) else naturalOf digits, after)
    else none
  | [] => none

/-- The float of a decimal, unless it is too large in the positive. -/
def floatOf? (x : Decimal) : Option Toml :=
  match x.toDouble with
  | .infinite false => none
  | other => some (.float other)

/-- A decimal integer or a float whose sign has been read, and what follows it. -/
def readDecimal (negative : Bool) (s : List Char) : Option (Toml × List Char) := do
  let (whole, afterWhole) ← wholeDigits? s
  match decimals? afterWhole with
  | some (fraction, afterFraction) =>
    let (exponent, after) := (exponent? afterFraction).getD (0, afterFraction)
    let value ← floatOf?
      { negative, digits := naturalOf (whole ++ fraction), exponent := exponent - fraction.length }
    return (value, after)
  | none =>
    match exponent? afterWhole with
    | some (exponent, after) =>
      let value ← floatOf? { negative, digits := naturalOf whole, exponent }
      return (value, after)
    | none =>
      let n : Int := naturalOf whole
      let value ← integerOf? (if negative then -n else n)
      return (value, afterWhole)

/-- A number, and what follows it. -/
def readNumber (s : List Char) : Option (Toml × List Char) :=
  match s with
  | '0' :: 'x' :: rest => basedInteger? 16 rest
  | '0' :: 'o' :: rest => basedInteger? 8 rest
  | '0' :: 'b' :: rest => basedInteger? 2 rest
  | _ =>
    let (negative, unsigned) := takeSign s
    match unsigned with
    | 'i' :: 'n' :: 'f' :: rest => some (.float (.infinite negative), rest)
    | 'n' :: 'a' :: 'n' :: rest => some (.float .notANumber, rest)
    | _ => readDecimal negative unsigned

end ContextProvider.Toml
