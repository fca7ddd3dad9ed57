import CodeRepair.Text.Basic

/-!
# Base 64

Three bytes are written as four characters of six bits each; what is missing in the last group is
filled up with equals signs.
-/

namespace CodeRepair.Web

/-- The character of a number below sixty-four. -/
def base64Character (n : Nat) : Char :=
  if n < 26 then Char.ofNat (0x41 + n)
  else if n < 52 then Char.ofNat (0x61 + (n - 26))
  else if n < 62 then Char.ofNat (0x30 + (n - 52))
  else if n = 62 then '+'
  else '/'

/-- The characters of a number of twenty-four bits, the first so many of them. -/
def base64Group (n count : Nat) : Text :=
  ([n / Nat.pow 64 3 % 64, n / Nat.pow 64 2 % 64, n / 64 % 64, n % 64].take count).map
    base64Character

/-- Bytes in base 64. -/
def base64 : List UInt8 → Text
  | [] => []
  | [a] => base64Group (a.toNat * Nat.pow 256 2) 2 ++ ['=', '=']
  | [a, b] => base64Group (a.toNat * Nat.pow 256 2 + b.toNat * 256) 3 ++ ['=']
  | a :: b :: c :: rest =>
    base64Group (a.toNat * Nat.pow 256 2 + b.toNat * 256 + c.toNat) 4 ++ base64 rest

end CodeRepair.Web
