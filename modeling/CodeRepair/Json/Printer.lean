import CodeRepair.Json.Basic

/-!
# Compact JSON

Values are written without white space.  A string escapes the quotation mark, the backslash and the
control characters below U+0020, five of them by a letter and the others by four lower-case
hexadecimal digits.
-/

namespace CodeRepair.Json

/-- The lower-case hexadecimal digit of a number below sixteen. -/
def hexDigit (n : Nat) : Char :=
  Nat.digitChar n

/-- Four hexadecimal digits. -/
def hexDigits (n : Nat) : Text :=
  [hexDigit (n / 4096 % 16), hexDigit (n / 256 % 16), hexDigit (n / 16 % 16), hexDigit (n % 16)]

/-- How a string writes one code point. -/
def escape (point : Nat) : Text :=
  if point = 0x22 then ['\\', '"']
  else if point = 0x5C then ['\\', '\\']
  else if point = 0x08 then ['\\', 'b']
  else if point = 0x09 then ['\\', 't']
  else if point = 0x0A then ['\\', 'n']
  else if point = 0x0C then ['\\', 'f']
  else if point = 0x0D then ['\\', 'r']
  else if point < 0x20 || (0xD800 ≤ point && point < 0xE000) then '\\' :: 'u' :: hexDigits point
  else [Char.ofNat point]

/-- A string in quotation marks. -/
def writeString (points : List Nat) : Text :=
  '"' :: points.flatMap escape ++ ['"']

mutual

/-- The text of a value. -/
def write : Json → Text
  | .null => "null".toList
  | .bool true => "true".toList
  | .bool false => "false".toList
  | .number written => written
  | .string points => writeString points
  | .array items => '[' :: Text.join [','] (writeAll items) ++ [']']
  | .object fields => '{' :: Text.join [','] (writeFields fields) ++ ['}']

/-- The texts of the items of an array. -/
def writeAll : List Json → List Text
  | [] => []
  | item :: items => write item :: writeAll items

/-- The texts of the fields of an object. -/
def writeFields : List (List Nat × Json) → List Text
  | [] => []
  | field :: fields => (writeString field.1 ++ ':' :: write field.2) :: writeFields fields

end

end CodeRepair.Json
