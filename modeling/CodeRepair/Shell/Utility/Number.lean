import CodeRepair.Shell.Regex
import CodeRepair.Shell.Utility.Basic

/-!
# Numbers

`seq` counts in decimal fractions, exactly, and writes as many places as its arguments have.  `expr`
calculates with integers of any size and with texts.
-/

namespace CodeRepair.Shell

open Work

/-! ## seq -/

/-- A decimal fraction: a numerator over a power of ten. -/
structure Fraction where
  numerator : Int
  places : Nat
  /-- How many characters its integral part was written with. -/
  width : Nat

/-- The decimal fraction that a text denotes. -/
def Fraction.read? (text : Bytes) : Option Fraction :=
  let negative := text.head? == some (byte '-')
  let digits := if negative || text.head? = some (byte '+') then text.drop 1 else text
  let (whole, rest) := (digits.takeWhile isDecimal, digits.dropWhile isDecimal)
  let (places, rest) := if rest.head? = some (byte '.') then
      ((rest.drop 1).takeWhile isDecimal, (rest.drop 1).dropWhile isDecimal) else ([], rest)
  let power : Option Int := match rest with
    | [] => some 0
    | e :: power => if e = byte 'e' || e = byte 'E' then integer? power else none
  if whole.isEmpty && places.isEmpty then none
  else power.map fun (power : Int) ↦
    let n := (number 10 (whole ++ places) : Int) * Nat.pow 10 (power - places.length).toNat
    let width := (if negative then 1 else 0) + max 1 (whole.length + power.toNat)
    ⟨if negative then -n else n, (places.length - power).toNat, width⟩

/-- The numerator over a greater power of ten. -/
def Fraction.over (x : Fraction) (places : Nat) : Int :=
  x.numerator * Nat.pow 10 (places - x.places)

/-- An integer over a power of ten in decimal digits. -/
def writeFraction (places : Nat) (n : Int) : Bytes :=
  let digits := padLeft (places + 1) (byte '0') (ofNatural n.natAbs)
  (if n < 0 then [byte '-'] else []) ++ digits.take (digits.length - places) ++
    if places = 0 then [] else byte '.' :: digits.drop (digits.length - places)

/-- A text with zeros behind its sign up to a width. -/
def padZeros (width : Nat) (text : Bytes) : Bytes :=
  if text.head? = some (byte '-') then byte '-' :: padLeft (width - 1) (byte '0') (text.drop 1)
  else padLeft width (byte '0') text

/-- How many directives there are in a format. -/
def directiveCount : Bytes → Nat
  | a :: b :: rest =>
    if a = byte '%' then (if b = byte '%' then directiveCount rest else directiveCount (b :: rest) + 1)
    else directiveCount (b :: rest)
  | [a] => if a = byte '%' then 1 else 0
  | [] => 0

/-- The numbers between two numbers. -/
def seq : Utility := do
  let arguments := (← read).arguments
  let isNumber := fun (argument : Bytes) ↦
    match argument with
    | a :: b :: _ => a == byte '-' && (isDecimal b || b == byte '.')
    | _ => false
  let before := arguments.takeWhile fun argument ↦ !isNumber argument
  let kinds := [taking 'f' "format", taking 's' "separator", flag 'w' "equal-width"]
  let options ← match Options.read kinds true (before.length + 1) before {} with
    | .ok options => pure { options with
        operands := options.operands ++ arguments.drop before.length }
    | .error message => misuse 1 message
  if options.operands.isEmpty then misuse 1 (bytes "missing operand")
  if 3 < options.operands.length then
    misuse 1 (bytes "extra operand " ++ quotedText ((options.operands[3]?).getD []))
  let numbers ← options.operands.mapM fun operand ↦ do
    match Fraction.read? operand with
    | some x => return x
    | none => misuse 1 (bytes "invalid floating point argument: " ++ quotedText operand)
  let one : Fraction := ⟨1, 0, 1⟩
  let (first, step, last) := match numbers with
    | [last] => (one, one, last)
    | [first, last] => (first, one, last)
    | [first, step, last] => (first, step, last)
    | _ => (one, one, one)
  if step.numerator = 0 then
    misuse 1 (bytes "invalid Zero increment value: " ++
      quotedText ((options.operands[1]?).getD []))
  let places := max first.places step.places
  let scale := max places last.places
  let count := (Int.fdiv (last.over scale - first.over scale) (step.over scale) + 1).toNat
  let width := if options.has "w" then
      max first.width last.width + if places = 0 then 0 else places + 1
    else 0
  let texts ← (List.range count).mapM fun (n : Nat) ↦ do
    let value := first.over scale + n * step.over scale
    match options.value? "f" with
    | none => return padZeros width (writeFraction places (Int.tdiv value (Nat.pow 10 (scale - places))))
    | some pattern =>
      let directives := directiveCount pattern
      if directives = 0 then fail 1 (bytes "format " ++ quotedText pattern ++ bytes " has no % directive")
      if 1 < directives then
        fail 1 (bytes "format " ++ quotedText pattern ++ bytes " has too many % directives")
      return (printf .utility (pattern.flatMap fun b ↦
        if b = byte '\\' then bytes "\\\\" else [b]) [writeFraction scale value]).output
  let separator := (options.value? "s").getD [lineEnd]
  if 0 < count then putLine (List.intercalate separator texts)

/-- A line again and again. -/
def yes : Utility := do
  let options ← options [] 1 true
  let line := if options.operands.isEmpty then bytes "y"
    else List.intercalate [byte ' '] options.operands
  modify fun effect ↦ { effect with isEndless := true, isPrompt := true }
  put ((List.replicate (400000 / (line.length + 1) + 64) (line ++ [lineEnd])).flatten)

/-! ## factor -/

/-- The prime factors of a number that are not less than a divisor, the least first.  Without fuel, what
is left counts as prime. -/
def factorsFrom : Nat → Nat → Nat → List Nat
  | 0, _, n => [n]
  | fuel + 1, divisor, n =>
    if n < divisor * divisor then (if 1 < n then [n] else [])
    else if n % divisor = 0 then divisor :: factorsFrom fuel divisor (n / divisor)
    else factorsFrom fuel (divisor + if divisor = 2 then 1 else 2) n

/-- The greatest number of divisors that are tried. -/
def greatestTrial : Nat := 200000

/-- The prime factors of numbers. -/
def factor : Utility := do
  let options ← options [flag 'h' "exponents"] 1 false
  let words ← if options.operands.isEmpty then do
      match ← readInput with
      | .error fault => fail 1 (bytes "error reading input: " ++ Text.encode fault.reason)
      | .ok content =>
        pure ((cutAt lineEnd (content.map fun b ↦ if isWhite b then lineEnd else b)).filter fun word ↦
          !word.isEmpty)
    else pure options.operands
  for word in words do
    let word := word.dropWhile (· == byte ' ')
    let digits := if word.head? = some (byte '+') then word.drop 1 else word
    if digits.isEmpty || !digits.all isDecimal then
      blame 1 (quotedText word ++ bytes " is not a valid positive integer")
    else
      let n := number 10 digits
      let factors := if n = 0 then [] else factorsFrom greatestTrial 2 n
      let shown := if options.has "h" then
          factors.eraseDups.map fun p ↦
            let power := (factors.filter (· == p)).length
            ofNatural p ++ if power = 1 then [] else byte '^' :: ofNatural power
        else factors.map ofNatural
      putLine (ofNatural n ++ bytes ":" ++ shown.flatMap fun text ↦ byte ' ' :: text)

/-! ## expr -/

namespace Calculation

/-- What can go wrong in a calculation. -/
abbrev Result := Except Bytes (Bytes × List Bytes)

/-- Whether a value is nothing or zero. -/
def isNothing (value : Bytes) : Bool :=
  let digits := if value.head? = some (byte '-') then value.drop 1 else value
  value.isEmpty || (!digits.isEmpty && digits.all (· == byte '0'))

/-- The integer that a value denotes, without white space around it. -/
def whole? (value : Bytes) : Option Int :=
  let digits := if value.head? = some (byte '-') then value.drop 1 else value
  if digits.isEmpty || !digits.all isDecimal then none else some (integer value)

/-- The integer that a value has to denote. -/
def wholeOf (value : Bytes) : Except Bytes Int :=
  match whole? value with
  | some n => .ok n
  | none => .error (bytes "non-integer argument")

/-- What a pattern makes of a text: what its group stands for, or how much it matches. -/
def matched (text pattern : Bytes) : Except Bytes Bytes := do
  let regex ← match Regex.read false pattern with
    | .ok regex => pure regex
    | .error fault => throw (bytes fault.message)
  let hasGroup := regex.hasGroup
  match regex.run (regex.modeFor false) { rest := text } some with
  | some place =>
    if hasGroup then
      return ((place.groups.find? fun entry ↦ entry.1 == 1).map Prod.snd).getD []
    else return ofNatural place.position
  | none => return if hasGroup then [] else bytes "0"

/-- What an operator makes of two values. -/
def combine (operator a b : Bytes) : Except Bytes Bytes := do
  let order := match whole? a, whole? b with
    | some m, some n => compare m n
    | _, _ => compareBytes a b
  let truth := fun (holds : Bool) ↦ (Except.ok (if holds then bytes "1" else bytes "0") :
    Except Bytes Bytes)
  match String.ofList (argument operator) with
  | "|" => return if !isNothing a then a else if isNothing b then bytes "0" else b
  | "&" => return if isNothing a || isNothing b then bytes "0" else a
  | "<" => truth (order == .lt)
  | "<=" => truth (order != .gt)
  | "=" | "==" => truth (order == .eq)
  | "!=" => truth (order != .eq)
  | ">=" => truth (order != .lt)
  | ">" => truth (order == .gt)
  | ":" => matched a b
  | "+" => return ofInteger ((← wholeOf a) + (← wholeOf b))
  | "-" => return ofInteger ((← wholeOf a) - (← wholeOf b))
  | "*" => return ofInteger ((← wholeOf a) * (← wholeOf b))
  | _ =>
    let m ← wholeOf a
    let n ← wholeOf b
    if n = 0 then throw (bytes "division by zero")
    return ofInteger (if operator = bytes "/" then Int.tdiv m n else Int.tmod m n)

/-- The operators by how tightly they bind, the loosest first. -/
def levels : List (List String) :=
  [["|"], ["&"], ["<", "<=", "=", "==", "!=", ">=", ">"], ["+", "-"], ["*", "/", "%"], [":"]]

/-- The bytes from a place on, so many of them. -/
def slice (text start count : Bytes) : Bytes :=
  match whole? start, whole? count with
  | some n, some m => if n ≤ 0 || m ≤ 0 then [] else (text.drop (n.toNat - 1)).take m.toNat
  | _, _ => []

/-- The complaint that nothing follows an argument. -/
def missing (before : Bytes) : Bytes :=
  bytes "syntax error: missing argument after " ++ quotedText before

mutual

/-- A value with operators that bind at least so tightly; it is not calculated if nothing asks for it. -/
def level : Nat → Bool → List (List String) → Bytes → List Bytes → Result
  | 0, _, _, _, _ => .error (bytes "syntax error")
  | fuel + 1, isWanted, [], before, arguments => primary fuel isWanted before arguments
  | fuel + 1, isWanted, operators :: tighter, before, arguments => do
    let (value, rest) ← level fuel isWanted tighter before arguments
    more fuel isWanted operators tighter value rest

/-- A value whose first operand is known. -/
def more : Nat → Bool → List String → List (List String) → Bytes → List Bytes → Result
  | 0, _, _, _, _, _ => .error (bytes "syntax error")
  | fuel + 1, isWanted, operators, tighter, value, arguments => do
    match arguments with
    | operator :: rest =>
      if operators.any fun known ↦ bytes known == operator then
        let isOr := operator = bytes "|"
        let isAnd := operator = bytes "&"
        let needs := isWanted && !(isOr && !isNothing value) && !(isAnd && isNothing value)
        let (other, rest) ← level fuel needs tighter operator rest
        let value ← if !isWanted then pure value
          else if needs then combine operator value other
          else combine operator value []
        more fuel isWanted operators tighter value rest
      else return (value, arguments)
    | [] => return (value, [])

/-- A value without operators between values. -/
def primary : Nat → Bool → Bytes → List Bytes → Result
  | 0, _, _, _ => .error (bytes "syntax error")
  | fuel + 1, isWanted, before, arguments => do
    match arguments with
    | [] => throw (missing before)
    | a :: rest =>
      let next := fun (before : Bytes) (rest : List Bytes) ↦ level fuel isWanted [] before rest
      match String.ofList (argument a) with
      | "+" =>
        match rest with
        | [] => throw (missing a)
        | b :: rest => return (b, rest)
      | "length" =>
        let (text, rest) ← next a rest
        return (ofNatural text.length, rest)
      | "match" =>
        let (text, rest) ← next a rest
        let (pattern, rest) ← next text rest
        return (← if isWanted then matched text pattern else pure [], rest)
      | "index" =>
        let (text, rest) ← next a rest
        let (set, rest) ← next text rest
        return (ofNatural (((text.findIdx? set.contains).map (· + 1)).getD 0), rest)
      | "substr" =>
        let (text, rest) ← next a rest
        let (start, rest) ← next text rest
        let (count, rest) ← next start rest
        return (slice text start count, rest)
      | "(" =>
        let (value, rest) ← level fuel isWanted levels a rest
        match rest with
        | [] => throw (bytes "syntax error: expecting \x27)\x27 after " ++
            quotedText ((arguments[arguments.length - 1]?).getD []))
        | b :: rest =>
          if b = bytes ")" then return (value, rest)
          else throw (bytes "syntax error: expecting \x27)\x27 instead of " ++ quotedText b)
      | ")" => throw (bytes "syntax error: unexpected \x27)\x27")
      | _ => return (a, rest)

end

end Calculation

/-- The value of an expression. -/
def expr : Utility := do
  let arguments := (← read).arguments
  let arguments := if arguments.head? = some (bytes "--") then arguments.drop 1 else arguments
  if arguments.isEmpty then misuse 2 (bytes "missing operand")
  match Calculation.level (16 * arguments.length + 64) true Calculation.levels [] arguments with
  | .error message => fail 2 message
  | .ok (value, []) =>
    putLine value
    if Calculation.isNothing value then quit 1
  | .ok (_, next :: _) => fail 2 (bytes "syntax error: unexpected argument " ++ quotedText next)

end CodeRepair.Shell
