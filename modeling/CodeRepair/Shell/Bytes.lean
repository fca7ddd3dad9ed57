import CodeRepair.Text.Utf8

/-!
# Bytes

Commands read and write bytes.  Digits, numbers and white space are meant in ASCII.
-/

namespace CodeRepair.Shell

/-- Bytes, as commands read and write them. -/
abbrev Bytes := List UInt8

/-- The bytes of a text. -/
def bytes (text : String) : Bytes :=
  Text.encode text.toList

/-- The byte of an ASCII character. -/
def byte (c : Char) : UInt8 :=
  UInt8.ofNat c.toNat

/-- The byte of a line feed. -/
def lineEnd : UInt8 := 0x0A

/-- Whether a byte is an octal digit. -/
def isOctal (b : UInt8) : Bool :=
  byte '0' ≤ b && b ≤ byte '7'

/-- Whether a byte is a decimal digit. -/
def isDecimal (b : UInt8) : Bool :=
  byte '0' ≤ b && b ≤ byte '9'

/-- Whether a byte is a capital letter. -/
def isCapital (b : UInt8) : Bool :=
  byte 'A' ≤ b && b ≤ byte 'Z'

/-- Whether a byte is a small letter. -/
def isSmall (b : UInt8) : Bool :=
  byte 'a' ≤ b && b ≤ byte 'z'

/-- Whether a byte is a letter or a digit. -/
def isWordByte (b : UInt8) : Bool :=
  isDecimal b || isCapital b || isSmall b

/-- Whether a byte is white space, line ends among it. -/
def isWhite (b : UInt8) : Bool :=
  b == 0x20 || (0x09 ≤ b && b ≤ 0x0D)

/-- The small letter of a capital one. -/
def toSmall (b : UInt8) : UInt8 :=
  if isCapital b then b + 32 else b

/-- The capital letter of a small one. -/
def toCapital (b : UInt8) : UInt8 :=
  if isSmall b then b - 32 else b

/-- The value of a digit in a base of at most thirty-six. -/
def digitOf (b : UInt8) : Nat :=
  if isDecimal b then (b - byte '0').toNat
  else if isSmall b then (b - byte 'a').toNat + 10
  else if isCapital b then (b - byte 'A').toNat + 10
  else 99

/-- The number that digits denote in a base. -/
def number (base : Nat) (digits : Bytes) : Nat :=
  digits.foldl (fun n b ↦ base * n + digitOf b) 0

/-- A natural number in decimal digits. -/
def ofNatural (n : Nat) : Bytes :=
  Text.encode (Text.ofNat n)

/-- An integer in decimal digits. -/
def ofInteger (n : Int) : Bytes :=
  (if n < 0 then [byte '-'] else []) ++ ofNatural n.natAbs

/-- The integer at the beginning of a text, zero if there is none. -/
def integer (text : Bytes) : Int :=
  let text := text.dropWhile isWhite
  let digits := (if text.head? = some (byte '-') || text.head? = some (byte '+') then text.drop 1
    else text).takeWhile isDecimal
  if text.head? = some (byte '-') then -(number 10 digits : Int) else number 10 digits

/-- The integer that a text denotes, with a sign and white space around it. -/
def integer? (text : Bytes) : Option Int :=
  let text := (text.dropWhile isWhite).reverse.dropWhile isWhite |>.reverse
  let digits := if text.head? = some (byte '-') || text.head? = some (byte '+') then text.drop 1
    else text
  if digits.isEmpty || !digits.all isDecimal then none else some (integer text)

/-- A text filled up at its beginning. -/
def padLeft (width : Nat) (filler : UInt8) (text : Bytes) : Bytes :=
  List.replicate (width - text.length) filler ++ text

/-- A text filled up at its end. -/
def padRight (width : Nat) (filler : UInt8) (text : Bytes) : Bytes :=
  text ++ List.replicate (width - text.length) filler

/-- One step of `linesOf`, read from the back. -/
def addToLines (b : UInt8) : List Bytes → List Bytes
  | [] => [[b]]
  | line :: rest => if b = lineEnd then [b] :: line :: rest else (b :: line) :: rest

/-- The lines of bytes, each with its line feed if it has one. -/
def linesOf (content : Bytes) : List Bytes :=
  (content.foldr addToLines [[]]).filter fun line ↦ !line.isEmpty

/-- A line without its line feed. -/
def chomp (line : Bytes) : Bytes :=
  if line.getLast? = some lineEnd then line.dropLast else line

/-- Bytes cut at each occurrence of one. -/
def cutAt (separator : UInt8) (content : Bytes) : List Bytes :=
  content.foldr (fun b pieces ↦
    match pieces with
    | [] => [[b]]
    | piece :: rest => if b = separator then [] :: piece :: rest else (b :: piece) :: rest) [[]]

/-- Items in groups of a size. -/
def groupsOf {α : Type} (size : Nat) : Nat → List α → List (List α)
  | 0, _ => []
  | _, [] => []
  | fuel + 1, items => items.take size :: groupsOf size fuel (items.drop size)

/-- The order of bytes, byte by byte. -/
def compareBytes : Bytes → Bytes → Ordering
  | [], [] => .eq
  | [], _ => .lt
  | _, [] => .gt
  | a :: as, b :: bs => if a = b then compareBytes as bs else if a < b then .lt else .gt

/-- A text without the line feeds at its end. -/
def dropLineEnds (content : Bytes) : Bytes :=
  (content.reverse.dropWhile (· == lineEnd)).reverse

end CodeRepair.Shell
