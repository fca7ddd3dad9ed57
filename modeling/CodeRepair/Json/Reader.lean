import CodeRepair.Json.Basic

/-!
# Reading JSON

The reader accepts the JSON of RFC 8259 and nothing else: four characters of white space, no comma
after a last item, no digit before a leading zero, no control character in a string.  An escape may
name half of a surrogate pair.  Each step of the reader consumes a character, so the length of the
text bounds their number.
-/

namespace CodeRepair.Json

/-- The white space between tokens. -/
def isSpace (c : Char) : Bool :=
  c == ' ' || c == '\t' || c == '\n' || c == '\r'

/-- A text from its first token on. -/
def skipSpace (text : Text) : Text :=
  text.dropWhile isSpace

/-- The value of a hexadecimal digit of either case. -/
def hexValue? (c : Char) : Option Nat :=
  if '0' ≤ c && c ≤ '9' then some (c.toNat - 0x30)
  else if 'a' ≤ c && c ≤ 'f' then some (c.toNat - 0x57)
  else if 'A' ≤ c && c ≤ 'F' then some (c.toNat - 0x37)
  else none

/-- The number that hexadecimal digits denote. -/
def hexNumber? (digits : Text) : Option Nat :=
  digits.foldl (fun n c ↦ do return 16 * (← n) + (← hexValue? c)) (some 0)

/-- The code point that a letter stands for after a backslash. -/
def unescape? : Char → Option Nat
  | '"' => some 0x22
  | '\\' => some 0x5C
  | '/' => some 0x2F
  | 'b' => some 0x08
  | 'f' => some 0x0C
  | 'n' => some 0x0A
  | 'r' => some 0x0D
  | 't' => some 0x09
  | _ => none

/-- The rest of a string after its opening quotation mark, and the text after the string.  The code
points before are given, the last one first. -/
def readString? : Text → List Nat → Option (List Nat × Text)
  | [], _ => none
  | '"' :: text, before => some (before.reverse, text)
  | '\\' :: 'u' :: a :: b :: c :: d :: text, before =>
    match hexNumber? [a, b, c, d] with
    | some point => readString? text (point :: before)
    | none => none
  | '\\' :: c :: text, before =>
    match unescape? c with
    | some point => readString? text (point :: before)
    | none => none
  | c :: text, before =>
    if c.toNat < 0x20 || c == '\\' then none else readString? text (c.toNat :: before)

/-- Digits, at least one, and the text after them. -/
def digits? (text : Text) : Option (Text × Text) :=
  let digits := text.takeWhile Char.isDigit
  if digits.isEmpty then none else some (digits, text.dropWhile Char.isDigit)

/-- The whole part of a number, which begins with a zero only if it is one. -/
def whole? : Text → Option (Text × Text)
  | '0' :: text => if (text.head?.map Char.isDigit).getD false then none else some (['0'], text)
  | text => digits? text

/-- The fraction of a number, which may be missing. -/
def fraction? : Text → Option (Text × Text)
  | '.' :: text => (digits? text).map fun part ↦ ('.' :: part.1, part.2)
  | text => some ([], text)

/-- The power of ten of a number, which may be missing. -/
def power? : Text → Option (Text × Text)
  | c :: text =>
    if c == 'e' || c == 'E' then
      match text with
      | '+' :: rest => (digits? rest).map fun part ↦ (c :: '+' :: part.1, part.2)
      | '-' :: rest => (digits? rest).map fun part ↦ (c :: '-' :: part.1, part.2)
      | _ => (digits? text).map fun part ↦ (c :: part.1, part.2)
    else some ([], c :: text)
  | [] => some ([], [])

/-- A number as it is written, and the text after it. -/
def readNumber? (text : Text) : Option (Text × Text) := do
  let (sign, text) := match text with
    | '-' :: rest => (['-'], rest)
    | _ => ([], text)
  let (whole, text) ← whole? text
  let (fraction, text) ← fraction? text
  let (power, text) ← power? text
  return (sign ++ whole ++ fraction ++ power, text)

mutual

/-- The value at the beginning of a text, after white space, and the text after it. -/
def readValue? : Nat → Text → Option (Json × Text)
  | 0, _ => none
  | fuel + 1, text =>
    match skipSpace text with
    | 'n' :: 'u' :: 'l' :: 'l' :: rest => some (.null, rest)
    | 't' :: 'r' :: 'u' :: 'e' :: rest => some (.bool true, rest)
    | 'f' :: 'a' :: 'l' :: 's' :: 'e' :: rest => some (.bool false, rest)
    | '"' :: rest => (readString? rest []).map fun read ↦ (.string read.1, read.2)
    | '[' :: rest =>
      match skipSpace rest with
      | ']' :: rest => some (.array [], rest)
      | _ => readItems? fuel rest []
    | '{' :: rest =>
      match skipSpace rest with
      | '}' :: rest => some (.object [], rest)
      | _ => readFields? fuel rest []
    | other => (readNumber? other).map fun read ↦ (.number read.1, read.2)

/-- The items of an array up to its end, of which there is at least one more. -/
def readItems? : Nat → Text → List Json → Option (Json × Text)
  | 0, _, _ => none
  | fuel + 1, text, before =>
    match readValue? fuel text with
    | none => none
    | some (item, text) =>
      match skipSpace text with
      | ',' :: rest => readItems? fuel rest (item :: before)
      | ']' :: rest => some (.array (item :: before).reverse, rest)
      | _ => none

/-- The fields of an object up to its end, of which there is at least one more. -/
def readFields? : Nat → Text → List (List Nat × Json) → Option (Json × Text)
  | 0, _, _ => none
  | fuel + 1, text, before =>
    match skipSpace text with
    | '"' :: rest =>
      match readString? rest [] with
      | none => none
      | some (name, rest) =>
        match skipSpace rest with
        | ':' :: rest =>
          match readValue? fuel rest with
          | none => none
          | some (value, rest) =>
            match skipSpace rest with
            | ',' :: rest => readFields? fuel rest ((name, value) :: before)
            | '}' :: rest => some (.object ((name, value) :: before).reverse, rest)
            | _ => none
        | _ => none
    | _ => none

end

/-- The value of a text that holds one value and otherwise white space only. -/
def read? (text : Text) : Option Json :=
  match readValue? (text.length + 1) text with
  | some (value, rest) => if (skipSpace rest).isEmpty then some value else none
  | none => none

end CodeRepair.Json
