import CodeRepair.Decimal.Numeral
import CodeRepair.Json.Reader
import CodeRepair.Toml.Basic

/-!
# Values without quotation marks

Truth values, integers, reals, dates and times are recognised as whole words.  Integers are written in
four bases.  An underscore stands between digits.  The form of a number is looser than what denotes
one: digits of another base may be missing, and behind an underscore and a digit in an integer there may
be anything.  Such a word is a value that nobody can read.
-/

namespace CodeRepair.Toml

/-! ## Digits -/

/-- The number that digits of a base denote. -/
def ofDigits (base : Nat) (digits : Text) : Nat :=
  digits.foldl (fun n c ↦ base * n + (Json.hexValue? c).getD 0) 0

/-- Whether a character is a digit of a base of at most sixteen. -/
def isDigitOf (base : Nat) (c : Char) : Bool :=
  ((Json.hexValue? c).getD base) < base

/-- Whether each of the pieces behind an underscore begins with a digit, and ends with one if another
piece follows it. -/
def continuesGroups (isDigit : Char → Bool) : List Text → Bool
  | [] => true
  | [last] => (last.head?.map isDigit).getD false
  | piece :: pieces =>
    (piece.head?.map isDigit).getD false && (piece.getLast?.map isDigit).getD false &&
      continuesGroups isDigit pieces

/-- A numeral without its underscores, if they stand where they may. -/
def ungrouped? (isDigit : Char → Bool) (text : Text) : Option Text :=
  match Text.pieces '_' text with
  | first :: second :: pieces =>
    if (first.getLast?.map isDigit).getD false && continuesGroups isDigit (second :: pieces) then
      some (first ++ (second :: pieces).flatten)
    else none
  | _ => some text

/-! ## Numbers -/

/-- A sign at the beginning of a text, and the text after it. -/
def sign : Text → Text × Text
  | '+' :: text => (['+'], text)
  | '-' :: text => (['-'], text)
  | text => ([], text)

/-- The integer of a sign and digits; a value that nobody can read if there are no digits or others
than those of the base. -/
def integerOf (base : Nat) (text : Text) : Toml :=
  let (sign, digits) := sign text
  if digits.isEmpty || !digits.all (isDigitOf base) then .unreadable
  else
    let n := ofDigits base digits
    .integer (if sign = ['-'] then -(n : Int) else n)

/-- An integer in another base than ten. -/
def based? (base : Nat) (text : Text) : Option Toml :=
  if text.all fun c ↦ isDigitOf base c || c == '_' then
    if text.head? = some '_' then none else (ungrouped? (isDigitOf 16) text).map (integerOf base)
  else none

/-- The text after a number of digits that may be grouped, if there are any. -/
def digits? (text : Text) : Option (Nat × Text) :=
  let isPart := fun (c : Char) ↦ c.isDigit || c == '_'
  let count := (text.takeWhile isPart).countP Char.isDigit
  if count = 0 then none else some (count, text.dropWhile isPart)

/-- The text after the point and the digits of a fraction, which may be missing. -/
def fraction? : Text → Option Text
  | '.' :: text => (digits? text).map Prod.snd
  | text => some text

/-- Whether a text is a power of ten, or nothing. -/
def isPower : Text → Bool
  | [] => true
  | c :: text => (c == 'e' || c == 'E') && (((digits? (sign text).2).map fun read ↦ read.2.isEmpty)).getD false

/-- Whether a text without a sign has the form of a real. -/
def isReal (text : Text) : Bool :=
  match digits? text with
  | some (count, rest) =>
    !(1 < count && text.head? == some '0') && ((fraction? rest).map isPower).getD false
  | none => false

/-- A number in decimal digits: a real if there is a point or a power of ten behind the first digits,
and otherwise an integer. -/
def decimal? (text : Text) : Option Toml :=
  let unsigned := (sign text).2
  let rest := unsigned.dropWhile Char.isDigit
  if rest.any fun c ↦ c == '.' || c == 'e' || c == 'E' then
    if isReal unsigned then do
      let number ← Decimal.Numeral.read? (← ungrouped? Char.isDigit text)
      return .real (.numeral number)
    else none
  else if unsigned.head? = some '0' && 1 < unsigned.length then none
  else if rest.isEmpty && !unsigned.isEmpty || rest.head? = some '_' && text.head? != some '_' then
    (ungrouped? (isDigitOf 16) text).map (integerOf 10)
  else none

/-! ## Dates and times -/

/-- A number of exactly so many digits, and the text after them. -/
def field? (width : Nat) (text : Text) : Option (Nat × Text) :=
  let digits := text.takeWhile Char.isDigit
  if digits.length = width then some (ofDigits 10 digits, text.drop width) else none

/-- The text after a given character at its beginning. -/
def after? (c : Char) (text : Text) : Option Text :=
  Text.dropHead? [c] text

/-- How many days a month has. -/
def daysOf (year month : Nat) : Nat :=
  if month = 2 then
    if year % 4 = 0 && (year % 100 != 0 || year % 400 = 0) then 29 else 28
  else if month = 4 || month = 6 || month = 9 || month = 11 then 30
  else 31

/-- The text after a date. -/
def date? (text : Text) : Option Text := do
  let (year, text) ← field? 4 text
  let (month, text) ← field? 2 (← after? '-' text)
  let (day, text) ← field? 2 (← after? '-' text)
  if 1 ≤ month && month ≤ 12 && 1 ≤ day && day ≤ daysOf year month then some text else none

/-- The text after the seconds of a time, which may be missing and may have a fraction. -/
def seconds? : Text → Option Text
  | ':' :: text => do
    let (second, text) ← field? 2 text
    if 60 < second then none
    match text with
    | '.' :: rest =>
      if (rest.takeWhile Char.isDigit).isEmpty then none else some (rest.dropWhile Char.isDigit)
    | _ => some text
  | text => some text

/-- The text after a time of day. -/
def time? (text : Text) : Option Text := do
  let (hour, text) ← field? 2 text
  let (minute, text) ← field? 2 (← after? ':' text)
  if hour ≤ 23 && minute ≤ 59 then seconds? text else none

/-- Whether a text is the distance of a clock from that of Greenwich, or nothing. -/
def isOffset : Text → Bool
  | [] => true
  | ['Z'] | ['z'] => true
  | c :: text =>
    (c == '+' || c == '-') && ((do
      let (hour, text) ← field? 2 text
      let (minute, text) ← field? 2 (← after? ':' text)
      some (hour ≤ 23 && minute ≤ 59 && text.isEmpty)) : Option Bool).getD false

/-- Whether a text is a date, a time, or both. -/
def isMoment (text : Text) : Bool :=
  match date? text with
  | some [] => true
  | some (c :: rest) =>
    (c == 'T' || c == 't' || c == ' ') && ((time? rest).map isOffset).getD false
  | none => time? text == some []

/-! ## Words -/

/-- The value that a word stands for. -/
def word? (text : Text) : Option Toml :=
  if text = "true".toList then some (.truth true)
  else if text = "false".toList then some (.truth false)
  else if (sign text).2 = "inf".toList then some (.real (.infinity ((sign text).1 == ['-'])))
  else if (sign text).2 = "nan".toList then some (.real (.nan ((sign text).1 == ['-'])))
  else if isMoment text then some .moment
  else match text with
    | '0' :: 'x' :: digits => based? 16 digits
    | '0' :: 'o' :: digits => based? 8 digits
    | '0' :: 'b' :: digits => based? 2 digits
    | _ => decimal? text

/-- The characters of a word. -/
def isWordCharacter (c : Char) : Bool :=
  !(isSpace c || c == '\r' || c == '\n' || c == '#' || c == '=' || c == ',' || c == '[' || c == ']' ||
    c == '\x7b' || c == '\x7d')

/-- The word at the beginning of a text, and the text after it.  A date and a time may be one word
with a space between them. -/
def splitWord (text : Text) : Text × Text :=
  let word := text.takeWhile isWordCharacter
  let rest := text.dropWhile isWordCharacter
  match date? word, rest with
  | some [], ' ' :: c :: more =>
    if c.isDigit then
      (word ++ ' ' :: (c :: more).takeWhile isWordCharacter, (c :: more).dropWhile isWordCharacter)
    else (word, rest)
  | _, _ => (word, rest)

/-- The value of the word at the beginning of a text, and the text after it. -/
def readWord? (text : Text) : Option (Toml × Text) :=
  (word? (splitWord text).1).map fun value ↦ (value, (splitWord text).2)

end CodeRepair.Toml
