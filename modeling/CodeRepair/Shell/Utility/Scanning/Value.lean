import CodeRepair.Shell.Format
import CodeRepair.Shell.Utility.Scanning.Reader

/-!
# Values of scripts that scan lines

A value is a number, a text, or a text that was read and counts as a number if it looks like one.
Numbers have 64 bits.
-/

namespace CodeRepair.Shell.Scanning

/-- A value. -/
inductive Value
  | unset
  | number (x : Float)
  | text (content : Bytes)
  /-- A text that was read. -/
  | taken (content : Bytes)
  deriving Inhabited

/-! ## Numbers -/

/-- A finite number as a sign and a quotient. -/
def quotientOfNumber (x : Float) : Bool × Quotient :=
  let bits := x.toBits.toNat
  let mantissa := bits % Nat.pow 2 52
  let power := bits / Nat.pow 2 52 % 2048
  let (coefficient, exponent) : Nat × Int :=
    if power = 0 then (mantissa, -1074) else (mantissa + Nat.pow 2 52, (power : Int) - 1075)
  (Nat.pow 2 63 ≤ bits,
    ⟨coefficient * Nat.pow 2 exponent.toNat, Nat.pow 2 (-exponent).toNat⟩)

/-- A number without its fraction. -/
def wholePart (x : Float) : Int :=
  let (isNegative, quotient) := quotientOfNumber x
  let n := quotient.numerator / quotient.denominator
  if isNegative then -(n : Int) else n

/-- A number without its fraction, within 64 bits. -/
def boundedWhole (x : Float) : Int :=
  let limit : Int := Nat.pow 2 63
  if x.isNaN then -limit
  else if x.isInf then if x < 0.0 then -limit else limit - 1
  else max (-limit) (min (2 * limit - 1) (wholePart x))

/-- An infinite number, or one that is none. -/
def oddNumber? (x : Float) : Option Bytes :=
  let sign := if Nat.pow 2 63 ≤ x.toBits.toNat then bytes "-" else []
  if x.isNaN then some (sign ++ bytes "nan")
  else if x.isInf then some (sign ++ bytes "inf")
  else none

/-- The number at the beginning of a text, and how much of the text it takes. -/
def leadingNumber (text : Bytes) : Float × Nat :=
  let blanks := (text.takeWhile isWhite).length
  let rest := text.drop blanks
  let isNegative := rest.head? = some (byte '-')
  let signs := if isNegative || rest.head? = some (byte '+') then 1 else 0
  let rest := rest.drop signs
  let small := (rest.take 8).map toSmall
  let length := lengthOfNumber rest
  let odd? := if (bytes "infinity").isPrefixOf small then some (1.0 / 0.0, 8)
    else if (bytes "inf").isPrefixOf small then some (1.0 / 0.0, 3)
    else if (bytes "nan").isPrefixOf small then some (0.0 / 0.0, 3)
    else none
  match odd? with
  | some (x, length) => (if isNegative then -x else x, blanks + signs + length)
  | none =>
    if length = 0 then (0.0, 0)
    else
      let digits := (rest.drop 2).takeWhile fun b ↦ decide (digitOf b < 16)
      if (bytes "0x").isPrefixOf small && !digits.isEmpty then
        let x := Float.ofNat (number 16 digits)
        (if isNegative then -x else x, blanks + signs + 2 + digits.length)
      else
        let x := decimalNumber (rest.take length)
        (if isNegative then -x else x, blanks + signs + length)

/-- The number that a text denotes, with white space around it. -/
def wholeNumber? (text : Bytes) : Option Float :=
  let (x, length) := leadingNumber text
  if length != 0 && (text.drop length).all isWhite then some x else none

namespace Value

/-- The number of a value. -/
def toNumber : Value → Float
  | unset => 0.0
  | number x => x
  | text content | taken content => (leadingNumber content).1

/-- Whether a value counts as true. -/
def isTrue : Value → Bool
  | unset => false
  | number x => x != 0.0
  | text content => !content.isEmpty
  | taken content =>
    match wholeNumber? content with
    | some x => x != 0.0
    | none => !content.isEmpty

/-- The number of a value that counts as one in a comparison. -/
def comparedNumber? : Value → Option Float
  | unset => some 0.0
  | number x => some x
  | text _ => none
  | taken content => wholeNumber? content

/-- The number that a truth value is. -/
def ofBool (holds : Bool) : Value :=
  .number (if holds then 1.0 else 0.0)

/-- The number that a count is. -/
def ofNat (n : Nat) : Value :=
  .number (Float.ofNat n)

end Value

/-! ## Formats -/

/-- One conversion of a number or a text. -/
def convert (conversion : Conversion) (value : Value) (content : Bytes) : Bytes :=
  let is := fun (letters : String) ↦ (bytes letters).contains conversion.letter
  if is "c" then
    match value with
    | .number x => conversion.fill false [UInt8.ofNat ((boundedWhole x) % 256).toNat]
    | _ => conversion.fill false (content.take 1)
  else if is "diouxX" then conversion.writeInteger (boundedWhole value.toNumber)
  else if is "eEfFgG" then
    let x := value.toNumber
    match oddNumber? x with
    | some name => conversion.fill false name
    | none =>
      let (isNegative, quotient) := quotientOfNumber x
      conversion.writeReal isNegative quotient
  else conversion.fill false (match conversion.precision with
    | some precision => content.take precision
    | none => content)

/-- The values under the control of a format, and whether there are enough of them. -/
def formatted (textOf : Value → Bytes) : Nat → Bytes → List Value → Bytes × Bool
  | 0, _, _ => ([], true)
  | _, [], _ => ([], true)
  | fuel + 1, b :: rest, values =>
    let more := fun (part rest : Bytes) (values : List Value) ↦
      let (text, isWhole) := formatted textOf fuel rest values
      (part ++ text, isWhole)
    if b != byte '%' then more [b] rest values
    else if rest.head? = some (byte '%') then more [b] (rest.drop 1) values
    else
      let arguments := values.map fun value ↦ ofInteger (boundedWhole value.toNumber)
      match conversion? rest arguments with
      | none => (b :: rest, true)
      | some (conversion, rest, left) =>
        match values.drop (values.length - left.length) with
        | [] => ([], false)
        | value :: values => more (convert conversion value (textOf value)) rest values

/-- The text of a number: its digits if it is whole, and else in a format. -/
def numberText (format : Bytes) (x : Float) : Bytes :=
  match oddNumber? x with
  | some name => name
  | none =>
    let n := wholePart x
    if x == x.floor && -(Nat.pow 2 63 : Int) ≤ n && n < (Nat.pow 2 64 : Nat) then ofInteger n
    else (formatted (fun _ ↦ []) (format.length + 1) format [.number x]).1

/-- The text of a value, in which numbers have a format. -/
def Value.toText (format : Bytes) : Value → Bytes
  | .unset => []
  | .number x => numberText format x
  | .text content | .taken content => content

/-- Whether a comparison holds. -/
def Comparison.holds (comparison : Comparison) (format : Bytes) (first second : Value) : Bool :=
  match first.comparedNumber?, second.comparedNumber?, first, second with
  | some x, some y, _, _ =>
    match comparison with
    | .less => x < y
    | .atMost => x ≤ y
    | .equal => x == y
    | .different => x != y
    | .greater => y < x
    | .atLeast => y ≤ x
  | _, _, _, _ =>
    let order := compareBytes (first.toText format) (second.toText format)
    match comparison with
    | .less => order == .lt
    | .atMost => order != .gt
    | .equal => order == .eq
    | .different => order != .eq
    | .greater => order == .gt
    | .atLeast => order != .lt

/-- What is left of a number divided by another one, with the sign of the first. -/
def remainderOf (x y : Float) : Float :=
  if x.isNaN || y.isNaN || x.isInf || y == 0.0 then 0.0 / 0.0
  else if y.isInf then x
  else
    let (isNegative, a) := quotientOfNumber x
    let (_, b) := quotientOfNumber y
    let rest := (a.numerator * b.denominator) % (b.numerator * a.denominator)
    let places := Nat.log2 (a.denominator * b.denominator)
    let result := (Float.ofNat rest).scaleB (-(places : Int))
    if isNegative then -result else result

/-- The result of an operation. -/
def Operation.apply (operation : Operation) (x y : Float) : Float :=
  match operation with
  | .add => x + y
  | .subtract => x - y
  | .multiply => x * y
  | .divide => x / y
  | .remainder => remainderOf x y
  | .power => x.pow y

end CodeRepair.Shell.Scanning
