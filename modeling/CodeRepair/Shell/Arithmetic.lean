import CodeRepair.Shell.Bytes

/-!
# Arithmetic of shells

Expressions of integers of 64 bits that wrap around, with the operators of C, from the assignments down
to the signs.  What is true is one and what is false is zero; a variable that is not set is zero.
-/

namespace CodeRepair.Shell.Arithmetic

/-- The integer of 64 bits that an integer wraps around to. -/
def wrap (n : Int) : Int :=
  Int.bmod n (Nat.pow 2 64)

/-- One for what is true. -/
def truth (b : Bool) : Int :=
  if b then 1 else 0

/-- What is wrong with an expression. -/
inductive Fault
  | expected (what : String)
  | divisionByZero
  /-- A variable holds a text that is no number. -/
  | notANumber (value : Bytes)
  deriving DecidableEq, Repr

/-- A token of an expression. -/
inductive Token
  | number (value : Int)
  | name (name : Text)
  | mark (mark : Text)
  deriving DecidableEq, Repr

/-- An expression. -/
inductive Expression
  | number (value : Int)
  | variable (name : Text)
  | unary (mark : Text) (operand : Expression)
  | binary (mark : Text) (left right : Expression)
  | conditional (condition positive negative : Expression)
  /-- A variable is set, perhaps to its old value combined with a new one. -/
  | assign (name : Text) (mark : Text) (value : Expression)
  deriving Repr

/-! ## Tokens -/

/-- The marks of more than one character, the longer ones first. -/
def longMarks : List Text :=
  ["<<=", ">>=", "<<", ">>", "<=", ">=", "==", "!=", "&&", "||", "+=", "-=", "*=", "/=", "%=", "&=", "^=",
    "|="].map String.toList

/-- The greatest integer of 64 bits. -/
def greatest : Nat := Nat.pow 2 63 - 1

/-- The number at the beginning of a text, in the base that its beginning tells, and the text after
it. -/
def readNumber (text : Text) : Int × Text :=
  let read := fun (base : Nat) (text : Text) ↦
    let isDigit := fun (c : Char) ↦ c.isAlphanum && digitOf (byte c) < base
    ((min greatest (number base ((text.takeWhile isDigit).map byte)) : Nat), text.dropWhile isDigit)
  match text with
  | '0' :: x :: d :: rest =>
    if (x == 'x' || x == 'X') && d.isAlphanum && digitOf (byte d) < 16 then
      let (n, rest) := read 16 (d :: rest)
      (n, rest)
    else
      let (n, rest) := read 8 text
      (n, rest)
  | '0' :: _ =>
    let (n, rest) := read 8 text
    (n, rest)
  | _ =>
    let (n, rest) := read 10 text
    (n, rest)

/-- The tokens of a text. -/
def tokens : Nat → Text → List Token
  | 0, _ => []
  | _, [] => []
  | fuel + 1, c :: text =>
    if c.isWhitespace then tokens fuel text
    else if c.isDigit then
      let (n, rest) := readNumber (c :: text)
      .number n :: tokens fuel rest
    else if c.isAlpha || c == '_' then
      let isPart := fun (c : Char) ↦ c.isAlphanum || c == '_'
      .name ((c :: text).takeWhile isPart) :: tokens fuel ((c :: text).dropWhile isPart)
    else match longMarks.find? fun mark ↦ mark.isPrefixOf (c :: text) with
      | some mark => .mark mark :: tokens fuel ((c :: text).drop mark.length)
      | none => .mark [c] :: tokens fuel text

/-! ## Reading -/

/-- The operators on two operands by how tightly they bind, the loosest first. -/
def levels : List (List String) :=
  [["||"], ["&&"], ["|"], ["^"], ["&"], ["==", "!="], ["<=", ">=", "<", ">"], ["<<", ">>"], ["+", "-"],
    ["*", "/", "%"]]

/-- The marks of assignments. -/
def assignments : List String :=
  ["=", "+=", "-=", "*=", "/=", "%=", "<<=", ">>=", "&=", "^=", "|="]

/-- An expression and the tokens after it. -/
abbrev Result := Except Fault (Expression × List Token)

mutual

/-- An assignment or a condition. -/
def readAssignment : Nat → List Token → Result
  | 0, _ => .error (.expected "primary")
  | fuel + 1, tokens => do
    match tokens with
    | .name name :: .mark mark :: rest =>
      if assignments.contains (String.ofList mark) then
        let (value, rest) ← readAssignment fuel rest
        return (.assign name mark.dropLast value, rest)
      else readConditional fuel tokens
    | _ => readConditional fuel tokens

/-- A condition with what follows it. -/
def readConditional : Nat → List Token → Result
  | 0, _ => .error (.expected "primary")
  | fuel + 1, tokens => do
    let (condition, rest) ← readLevel fuel levels tokens
    match rest with
    | .mark ['?'] :: rest =>
      let (positive, rest) ← readAssignment fuel rest
      match rest with
      | .mark [':'] :: rest =>
        let (negative, rest) ← readConditional fuel rest
        return (.conditional condition positive negative, rest)
      | _ => throw (.expected "':'")
    | _ => return (condition, rest)

/-- An expression with operators that bind at least so tightly. -/
def readLevel : Nat → List (List String) → List Token → Result
  | 0, _, _ => .error (.expected "primary")
  | fuel + 1, [], tokens =>
    match tokens with
    | .number n :: rest => .ok (.number n, rest)
    | .name name :: rest => .ok (.variable name, rest)
    | .mark ['('] :: rest => do
      let (inner, rest) ← readAssignment fuel rest
      match rest with
      | .mark [')'] :: rest => return (inner, rest)
      | _ => throw (.expected "')'")
    | .mark [c] :: rest =>
      if c == '-' || c == '+' || c == '!' || c == '~' then do
        let (operand, rest) ← readLevel fuel [] rest
        return (.unary [c] operand, rest)
      else .error (.expected "primary")
    | _ => .error (.expected "primary")
  | fuel + 1, level :: levels, tokens => do
    let (left, rest) ← readLevel fuel levels tokens
    readMore fuel level levels left rest

/-- An expression whose first operand is known. -/
def readMore : Nat → List String → List (List String) → Expression → List Token → Result
  | 0, _, _, _, _ => .error (.expected "primary")
  | fuel + 1, level, levels, left, tokens => do
    match tokens with
    | .mark mark :: rest =>
      if level.contains (String.ofList mark) then
        let (right, rest) ← readLevel fuel levels rest
        readMore fuel level levels (.binary mark left right) rest
      else return (left, tokens)
    | _ => return (left, tokens)

end

/-- The expression in a text. -/
def read (text : Text) : Except Fault Expression := do
  let tokens := tokens (text.length + 1) text
  let (expression, rest) ← readAssignment (32 * tokens.length + 64) tokens
  if rest.isEmpty then return expression else throw (.expected "EOF")

/-! ## Values -/

/-- The bits of an integer combined with those of another one. -/
def combine (f : Nat → Nat → Nat) (a b : Int) : Int :=
  let bits := fun (n : Int) ↦ (n % (Nat.pow 2 64 : Nat)).toNat
  wrap (f (bits a) (bits b) : Nat)

/-- What an operator makes of two integers. -/
def apply (mark : Text) (a b : Int) : Except Fault Int :=
  match String.ofList mark with
  | "+" => .ok (wrap (a + b))
  | "-" => .ok (wrap (a - b))
  | "*" => .ok (wrap (a * b))
  | "/" => if b = 0 then .error .divisionByZero else .ok (wrap (Int.tdiv a b))
  | "%" => if b = 0 then .error .divisionByZero else .ok (wrap (Int.tmod a b))
  | "<<" => .ok (wrap (a * (Nat.pow 2 (b % 64).toNat : Nat)))
  | ">>" => .ok (wrap (Int.fdiv a (Nat.pow 2 (b % 64).toNat : Nat)))
  | "<" => .ok (truth (a < b))
  | ">" => .ok (truth (b < a))
  | "<=" => .ok (truth (a ≤ b))
  | ">=" => .ok (truth (b ≤ a))
  | "==" => .ok (truth (a == b))
  | "!=" => .ok (truth (a != b))
  | "&" => .ok (combine Nat.land a b)
  | "|" => .ok (combine Nat.lor a b)
  | "^" => .ok (combine Nat.xor a b)
  | _ => .ok b

/-- The values that variables were set to, the last one first. -/
abbrev Changes := List (Text × Int)

/-- The number that a text holds for arithmetic; nothing is zero. -/
def numberOf (value : Bytes) : Except Fault Int :=
  let text := (value.dropWhile isWhite).map fun b ↦ Char.ofNat b.toNat
  let (negative, digits) := match text with
    | '-' :: rest => (true, rest)
    | '+' :: rest => (false, rest)
    | text => (false, text)
  if value.isEmpty then .ok 0
  else if (digits.head?.map Char.isDigit).getD false then
    let (n, rest) := readNumber digits
    if (rest.dropWhile Char.isWhitespace).isEmpty then .ok (if negative then -n else n)
    else .error (.notANumber value)
  else .error (.notANumber value)

/-- The value of an expression, and the variables that it sets. -/
def evaluate (valueOf : Text → Bytes) : Expression → Changes → Except Fault (Int × Changes)
  | .number n, changes => .ok (n, changes)
  | .variable name, changes =>
    match changes.find? fun change ↦ change.1 == name with
    | some change => .ok (change.2, changes)
    | none => (numberOf (valueOf name)).map fun n ↦ (n, changes)
  | .unary mark operand, changes => do
    let (n, changes) ← evaluate valueOf operand changes
    return (match mark with
      | ['-'] => wrap (-n)
      | ['!'] => truth (n == 0)
      | ['~'] => wrap (-n - 1)
      | _ => n, changes)
  | .binary mark left right, changes => do
    let (a, changes) ← evaluate valueOf left changes
    if mark = ['&', '&'] then
      if a = 0 then return (0, changes)
      else
        let (b, changes) ← evaluate valueOf right changes
        return (truth (b != 0), changes)
    else if mark = ['|', '|'] then
      if a != 0 then return (1, changes)
      else
        let (b, changes) ← evaluate valueOf right changes
        return (truth (b != 0), changes)
    else
      let (b, changes) ← evaluate valueOf right changes
      return (← apply mark a b, changes)
  | .conditional condition positive negative, changes => do
    let (n, changes) ← evaluate valueOf condition changes
    if n != 0 then evaluate valueOf positive changes else evaluate valueOf negative changes
  | .assign name mark value, changes => do
    let (n, changes) ← evaluate valueOf value changes
    let n ← if mark.isEmpty then pure n
      else do
        let before ← match changes.find? fun change ↦ change.1 == name with
          | some change => pure change.2
          | none => numberOf (valueOf name)
        apply mark before n
    return (n, (name, n) :: changes)

/-- The wording of a fault in an expression. -/
def Fault.message (text : Text) : Fault → Bytes
  | expected what =>
    bytes "arithmetic expression: expecting " ++ bytes what ++ bytes ": \"" ++ Text.encode text ++
      bytes "\""
  | divisionByZero => bytes "arithmetic expression: division by zero: \"" ++ Text.encode text ++ bytes "\""
  | notANumber value => bytes "Illegal number: " ++ value

end CodeRepair.Shell.Arithmetic
