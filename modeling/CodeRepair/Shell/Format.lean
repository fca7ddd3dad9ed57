import CodeRepair.Decimal.Numeral
import CodeRepair.Shell.Quotation

/-!
# Formatted output

`printf` writes its arguments under the control of a format, which is used again as long as there are
arguments left; `echo` writes its arguments with spaces between them.  Shells have both among their own
commands, with other escapes and complaints than the utilities of the same names.
-/

namespace CodeRepair.Shell

/-- Whose command it is. -/
inductive Style
  | shell
  | utility
  deriving DecidableEq, Repr

/-! ## Escapes -/

/-- The byte that a letter stands for after a backslash. -/
def escaped? (style : Style) (letter : UInt8) : Option UInt8 :=
  let common : List (Char × UInt8) := [('\\', 0x5C), ('a', 0x07), ('b', 0x08), ('f', 0x0C),
    ('n', 0x0A), ('r', 0x0D), ('t', 0x09), ('v', 0x0B)]
  let known := if style = .utility then ('e', 0x1B) :: common else common
  (known.find? fun entry ↦ byte entry.1 == letter).map Prod.snd

/-- The byte that some digits of a base denote, and the text after them. -/
def digitsByte (base count : Nat) (text : Bytes) : UInt8 × Bytes :=
  let digits := (text.take count).takeWhile fun b ↦ digitOf b < base
  (UInt8.ofNat (number base digits), text.drop digits.length)

/-- The character that hexadecimal digits denote, and the text after them. -/
def digitsCharacter (count : Nat) (text : Bytes) : Bytes × Bytes :=
  let digits := (text.take count).takeWhile fun b ↦ digitOf b < 16
  (Text.encode [Char.ofNat (number 16 digits)], text.drop digits.length)

/-- An escape in a format behind its backslash: its bytes and the text after it. -/
def escape? (style : Style) (text : Bytes) : Option (Bytes × Bytes) :=
  match text with
  | [] => none
  | b :: rest =>
    if isOctal b then
      let (value, rest) := digitsByte 8 3 text
      some ([value], rest)
    else if style = .utility && b = byte 'x' && (rest.head?.map fun d ↦ decide (digitOf d < 16)).getD false
    then
      let (value, rest) := digitsByte 16 2 rest
      some ([value], rest)
    else if style = .utility && b = byte '"' then some ([b], rest)
    else if style = .utility && b = byte 'u' then some (digitsCharacter 4 rest)
    else if style = .utility && b = byte 'U' then some (digitsCharacter 8 rest)
    else (escaped? style b).map fun value ↦ ([value], rest)

/-- A text with its escapes replaced, up to one that ends all output; whether there was one.  A zero
in front of octal digits is not one of them. -/
def unescape (style : Style) : Nat → Bytes → Bytes × Bool
  | 0, text => (text, false)
  | _, [] => ([], false)
  | fuel + 1, b :: rest =>
    if b = byte '\\' then
      if rest.head? = some (byte 'c') then ([], true)
      else
        let escape := if rest.head? = some (byte '0') then
            let (value, rest) := digitsByte 8 3 (rest.drop 1)
            some ([value], rest)
          else escape? style rest
        match escape with
        | some (value, rest) =>
          let (text, ended) := unescape style fuel rest
          (value ++ text, ended)
        | none =>
          let (text, ended) := unescape style fuel rest
          (b :: text, ended)
    else
      let (text, ended) := unescape style fuel rest
      (b :: text, ended)

/-- Whether an argument of the utility `echo` consists of its options. -/
def isEchoOption (argument : Bytes) : Bool :=
  match argument with
  | hyphen :: letters =>
    hyphen == byte '-' && !letters.isEmpty &&
      letters.all fun b ↦ b == byte 'n' || b == byte 'e' || b == byte 'E'
  | [] => false

/-- What `echo` writes. -/
def echo (style : Style) (arguments : List Bytes) : Bytes :=
  let (options, words) :=
    match style with
    | .shell =>
      if arguments.head? = some (bytes "-n") then ([bytes "-n"], arguments.drop 1) else ([], arguments)
    | .utility => (arguments.takeWhile isEchoOption, arguments.dropWhile isEchoOption)
  let text := List.intercalate [byte ' '] words
  let escapes := style = .shell ||
    ((options.flatten.filter fun b ↦ b == byte 'e' || b == byte 'E').getLast? == some (byte 'e'))
  let (text, ended) := if escapes then unescape style text.length text else (text, false)
  text ++ if ended || options.any fun option ↦ option.contains (byte 'n') then [] else [lineEnd]

/-! ## Reals -/

/-- A real that is not negative, as a quotient. -/
structure Quotient where
  numerator : Nat
  denominator : Nat

/-- A number of 64 bits, or of the greater format that the utility uses, that is nearest to a
numeral. -/
def quotientOf (style : Style) (number : Decimal.Numeral) : Quotient :=
  let format : Decimal.Format := if style = .shell then Decimal.double else ⟨64, -16445, 16320⟩
  match format.ofNumeral number with
  | .finite coefficient exponent =>
    ⟨coefficient * Nat.pow 2 exponent.toNat, Nat.pow 2 (-exponent).toNat⟩
  | .overflow => ⟨0, 1⟩

namespace Quotient

/-- The nearest natural number after the point was moved to the right by so many places. -/
def scaled (x : Quotient) (places : Int) : Nat :=
  Decimal.nearest (x.numerator * Nat.pow 10 places.toNat) (x.denominator * Nat.pow 10 (-places).toNat)

/-- How many places the first digit is behind the point, at most a given number. -/
def leadingZeros (x : Quotient) : Nat → Nat → Nat
  | 0, count => count
  | fuel + 1, count =>
    if x.denominator ≤ x.numerator * Nat.pow 10 count then count else leadingZeros x fuel (count + 1)

/-- Digits with a point in front of the last ones. -/
def pointed (places : Nat) (n : Nat) : Bytes :=
  let digits := padLeft (places + 1) (byte '0') (ofNatural n)
  digits.take (digits.length - places) ++
    if places = 0 then [] else byte '.' :: digits.drop (digits.length - places)

/-- A real with a number of places behind the point. -/
def fixed (x : Quotient) (places : Nat) : Bytes :=
  pointed places (x.scaled places)

/-- The digits of a real with one in front of the point and its power of ten. -/
def scientific (x : Quotient) (places : Nat) : Nat × Int :=
  if x.numerator = 0 then (0, 0)
  else
    let whole := x.numerator / x.denominator
    let power : Int := if 0 < whole then ((ofNatural whole).length : Int) - 1
      else -(x.leadingZeros 400 0 : Int)
    let n := x.scaled (places - power)
    if Nat.pow 10 (places + 1) ≤ n then (x.scaled (places - power - 1), power + 1) else (n, power)

/-- A power of ten as it is written. -/
def power (mark : UInt8) (n : Int) : Bytes :=
  mark :: (if n < 0 then byte '-' else byte '+') :: padLeft 2 (byte '0') (ofNatural n.natAbs)

/-- A real with its power of ten. -/
def exponential (x : Quotient) (mark : UInt8) (places : Nat) : Bytes :=
  let (n, exponent) := x.scientific places
  pointed places n ++ power mark exponent

/-- A text without zeros at the end of a fraction. -/
def dropZeros (text : Bytes) : Bytes :=
  if text.contains (byte '.') then
    ((text.reverse.dropWhile (· == byte '0')).dropWhile (· == byte '.')).reverse
  else text

/-- A real with a number of digits, in the shorter spelling. -/
def general (x : Quotient) (mark : UInt8) (digits : Nat) : Bytes :=
  let digits := max digits 1
  let (n, exponent) := x.scientific (digits - 1)
  if -4 ≤ exponent && exponent < digits then
    dropZeros (x.fixed (digits - 1 - exponent).toNat)
  else dropZeros (pointed (digits - 1) n) ++ power mark exponent

end Quotient

/-! ## Formats -/

/-- A conversion: how it is filled up, how wide it is, where it is cut, and its letter. -/
structure Conversion where
  flags : Bytes
  width : Nat
  precision : Option Nat
  letter : UInt8
  /-- The conversion as it is spelled. -/
  text : Bytes

/-- What has been written, what was complained about, and the arguments that are left. -/
structure Printed where
  output : Bytes := []
  complaints : List Bytes := []
  left : List Bytes
  /-- No more output follows. -/
  ended : Bool := false
  failed : Bool := false

/-- A number in a conversion, or the argument that a star takes it from. -/
def takeNumber (text : Bytes) (left : List Bytes) : Int × Bytes × List Bytes :=
  if text.head? = some (byte '*') then (integer (left.head?.getD []), text.drop 1, left.drop 1)
  else (number 10 (text.takeWhile isDecimal), text.dropWhile isDecimal, left)

/-- The conversion behind a percent sign, the text after it and the arguments that are left. -/
def conversion? (text : Bytes) (left : List Bytes) : Option (Conversion × Bytes × List Bytes) :=
  let isFlag := fun b ↦ b == byte '-' || b == byte '0' || b == byte '+' || b == byte ' ' || b == byte '#'
  let whole := text
  let flags := text.takeWhile isFlag
  let (width, text, left) := takeNumber (text.dropWhile isFlag) left
  let flags := if width < 0 then byte '-' :: flags else flags
  let (precision, text, left) :=
    if text.head? = some (byte '.') then
      let (n, text, left) := takeNumber (text.drop 1) left
      (if n < 0 then none else some n.toNat, text, left)
    else (none, text, left)
  match text with
  | letter :: rest =>
    some (⟨flags, width.natAbs, precision, letter,
      byte '%' :: whole.take (whole.length - rest.length)⟩, rest, left)
  | [] => none

namespace Conversion

/-- Whether a flag is set. -/
def has (conversion : Conversion) (flag : Char) : Bool :=
  conversion.flags.contains (byte flag)

/-- A text filled up to the width of a conversion. -/
def fill (conversion : Conversion) (zeros : Bool) (text : Bytes) : Bytes :=
  if conversion.has '-' then padRight conversion.width (byte ' ') text
  else if zeros && conversion.has '0' then
    let sign := text.takeWhile fun b ↦ b == byte '-' || b == byte '+' || b == byte ' '
    let base := (text.drop sign.length).takeWhile fun b ↦ b == byte '0' || b == byte 'x'
    let lead := if base.contains (byte 'x') then sign ++ base else sign
    lead ++ padLeft (conversion.width - lead.length) (byte '0') (text.drop lead.length)
  else padLeft conversion.width (byte ' ') text

/-- The sign of a number. -/
def sign (conversion : Conversion) (negative : Bool) : Bytes :=
  if negative then [byte '-']
  else if conversion.has '+' then [byte '+']
  else if conversion.has ' ' then [byte ' ']
  else []

/-- An integer as a conversion writes it. -/
def writeInteger (conversion : Conversion) (n : Int) : Bytes :=
  let letter := conversion.letter
  let unsigned := (n % (Nat.pow 2 64 : Nat)).toNat
  let inBase := fun (base : Nat) (n : Nat) ↦ Text.encode (Nat.toDigits base n)
  let (sign, digits) :=
    if letter = byte 'd' || letter = byte 'i' then (conversion.sign (n < 0), ofNatural n.natAbs)
    else if letter = byte 'u' then ([], ofNatural unsigned)
    else if letter = byte 'o' then
      ([], (if conversion.has '#' then [byte '0'] else []) ++ inBase 8 unsigned)
    else
      let digits := inBase 16 unsigned
      let digits := if letter = byte 'X' then digits.map toCapital else digits
      (if conversion.has '#' && unsigned != 0 then [byte '0', letter] else [], digits)
  let digits := if conversion.precision = some 0 && n = 0 then [] else digits
  conversion.fill conversion.precision.isNone
    (sign ++ padLeft (conversion.precision.getD 0) (byte '0') digits)

/-- A real as a conversion writes it. -/
def writeReal (conversion : Conversion) (negative : Bool) (x : Quotient) : Bytes :=
  let letter := toSmall conversion.letter
  let places := conversion.precision.getD 6
  let mark := if isCapital conversion.letter then byte 'E' else byte 'e'
  conversion.fill true (conversion.sign negative ++
    if letter = byte 'f' then x.fixed places
    else if letter = byte 'e' then x.exponential mark places
    else x.general mark places)

end Conversion

/-- An integer with a sign, in the base that its beginning tells; and whether the whole text is used, or
any of it. -/
def parseInteger (text : Bytes) : Int × Bool × Bool :=
  let text := text.dropWhile isWhite
  let negative := text.head? = some (byte '-')
  let digits := if negative || text.head? = some (byte '+') then text.drop 1 else text
  let (base, digits) :=
    if digits.head? = some (byte '0') then
      if (digits[1]? = some (byte 'x') || digits[1]? = some (byte 'X')) &&
          ((digits[2]?.map fun d ↦ decide (digitOf d < 16)).getD false) then (16, digits.drop 2)
      else (8, digits)
    else (10, digits)
  let used := digits.takeWhile fun b ↦ digitOf b < base
  let n := number base used
  (if negative then -(n : Int) else n, used.length == digits.length, !used.isEmpty)

/-- A real, and whether the whole text is used, or any of it. -/
def parseReal (text : Bytes) : Decimal.Numeral × Bool × Bool :=
  let text := (text.dropWhile isWhite).map fun b ↦ Char.ofNat b.toNat
  let lengths := (List.range (text.length + 1)).reverse
  let spelled := fun (text : Text) ↦
    match text with
    | '.' :: rest => '0' :: '.' :: rest
    | '-' :: '.' :: rest => '-' :: '0' :: '.' :: rest
    | text => text
  match lengths.findSome? fun n ↦
      let part := text.take n
      let part := if part.getLast? = some '.' && 1 < part.length then part.dropLast else part
      (Decimal.Numeral.read? (spelled part)).map fun number ↦ (number, n) with
  | some (number, n) => (number, n == text.length, true)
  | none => (⟨false, 0, 0⟩, text.isEmpty, false)

/-- What is wrong with an argument that should be a number. -/
def numberComplaint (style : Style) (argument : Bytes) (isWhole isAny : Bool) : List Bytes :=
  if isWhole && isAny then []
  else
    let message := if isAny then
        (if style = .shell then ": not completely converted" else ": value not completely converted")
      else (if style = .shell then ": expected numeric value" else ": expected a numeric value")
    let quote := if style = .shell then [] else bytes "\x27"
    [quote ++ argument ++ quote ++ bytes message]

/-- One conversion with its argument. -/
def Conversion.print (style : Style) (conversion : Conversion) (left : List Bytes) : Printed :=
  let argument := left.head?.getD []
  let missing := left.isEmpty
  let left := left.drop 1
  let is := fun (letters : String) ↦ (bytes letters).contains conversion.letter
  let cut := fun (text : Bytes) ↦
    match conversion.precision with
    | some precision => text.take precision
    | none => text
  if is "diouxX" then
    if argument.head? = some (byte '"') || argument.head? = some (byte '\x27') then
      { output := conversion.writeInteger (((argument[1]?).map UInt8.toNat).getD 0), left }
    else
      let (n, isWhole, isAny) := parseInteger argument
      let complaints := if missing then [] else numberComplaint style argument isWhole isAny
      { output := conversion.writeInteger n, complaints, left }
  else if is "feEgGF" then
    let (n, isWhole, isAny) := parseReal argument
    let complaints := if missing then [] else numberComplaint style argument isWhole isAny
    { output := conversion.writeReal n.negative (quotientOf style n), complaints, left }
  else if is "c" then { output := conversion.fill false (argument.take 1), left }
  else if is "s" then { output := conversion.fill false (cut argument), left }
  else if is "q" && style = .utility then
    { output := conversion.fill false (quotedName false argument), left }
  else if is "b" then
    let (text, ended) := unescape style argument.length argument
    { output := conversion.fill false (cut text), left, ended }
  else
    let complaint := if style = .shell then conversion.text ++ bytes ": invalid directive"
      else conversion.text ++ bytes ": invalid conversion specification"
    { complaints := [complaint], left, ended := true, failed := true }

/-- One use of a format. -/
def useFormat (style : Style) : Nat → Bytes → List Bytes → Printed
  | 0, _, left => { left, ended := true }
  | _, [], left => { left }
  | fuel + 1, b :: rest, left =>
    let behind := fun (output : Bytes) (rest : Bytes) ↦
      let printed := useFormat style fuel rest left
      { printed with output := output ++ printed.output }
    if b = byte '%' then
      if rest.head? = some (byte '%') then behind [b] (rest.drop 1)
      else match conversion? rest left with
        | none =>
          { complaints := [byte '%' :: rest ++ bytes (if style = .shell then ": missing format character"
              else ": invalid conversion specification")], left, ended := true, failed := true }
        | some (conversion, rest, left) =>
          let first := conversion.print style left
          if first.ended then first
          else
            let others := useFormat style fuel rest first.left
            { others with
              output := first.output ++ others.output
              complaints := first.complaints ++ others.complaints }
    else if b = byte '\\' then
      if rest.head? = some (byte 'c') && style = .utility then { left, ended := true }
      else match escape? style rest with
        | some (value, rest) => behind value rest
        | none => behind [b] rest
    else behind [b] rest

/-- A format used as long as there are arguments left. -/
def useFormats (style : Style) (pattern : Bytes) : Nat → List Bytes → Printed
  | 0, left => { left }
  | fuel + 1, left =>
    let first := useFormat style (pattern.length + 1) pattern left
    if first.ended || first.left.isEmpty || first.left.length = left.length then first
    else
      let others := useFormats style pattern fuel first.left
      { others with
        output := first.output ++ others.output
        complaints := first.complaints ++ others.complaints }

/-- What `printf` does with a format and its arguments. -/
def printf (style : Style) (pattern : Bytes) (arguments : List Bytes) : Printed :=
  let printed := useFormats style pattern (arguments.length + 1) arguments
  let printed := { printed with failed := printed.failed || !printed.complaints.isEmpty }
  if style = .utility && !printed.ended && !printed.left.isEmpty then
    { printed with
      complaints := printed.complaints ++ [bytes "warning: ignoring excess arguments, starting with \x27" ++
        printed.left.head?.getD [] ++ bytes "\x27"] }
  else printed

end CodeRepair.Shell
