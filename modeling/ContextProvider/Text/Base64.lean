/-!
# Base64

Three bytes are written as four of sixty-four signs; what is missing to three bytes at the end is
made up by equals signs.
-/

namespace ContextProvider.Text

/-- The sign of a number below sixty-four. -/
def base64Sign (n : Nat) : Char :=
  if n < 26 then Char.ofNat ('A'.toNat + n)
  else if n < 52 then Char.ofNat ('a'.toNat + (n - 26))
  else if n < 62 then Char.ofNat ('0'.toNat + (n - 52))
  else if n = 62 then '+' else '/'

/-- Bytes in Base64. -/
def base64 : List UInt8 → List Char
  | a :: b :: c :: rest =>
    let n := a.toNat * 65536 + b.toNat * 256 + c.toNat
    [base64Sign (n / 262144), base64Sign (n / 4096 % 64), base64Sign (n / 64 % 64),
      base64Sign (n % 64)] ++ base64 rest
  | [a, b] =>
    let n := a.toNat * 1024 + b.toNat * 4
    [base64Sign (n / 4096), base64Sign (n / 64 % 64), base64Sign (n % 64), '=']
  | [a] => [base64Sign (a.toNat / 4), base64Sign (a.toNat % 4 * 16), '=', '=']
  | [] => []

end ContextProvider.Text
