import CodeRepair.Decimal.Numeral
import CodeRepair.Shell.Utility.Scanning.Script

/-!
# Reading scripts that scan lines

A slash begins a pattern where an operand may stand, and divides elsewhere.  Line ends separate
statements unless something must follow.
-/

namespace CodeRepair.Shell.Scanning

/-! ## Numbers and escapes -/

/-- The number that is nearest to a numeral. -/
def numberOf (numeral : Decimal.Numeral) : Float :=
  let size := match Decimal.double.ofNumeral numeral with
    | .finite coefficient exponent => (Float.ofNat coefficient).scaleB exponent
    | .overflow => 1.0 / 0.0
  if numeral.negative then -size else size

/-- The length of the decimal number without a sign at the beginning of a text. -/
def lengthOfNumber (text : Bytes) : Nat :=
  let whole := (text.takeWhile isDecimal).length
  let rest := text.drop whole
  let fraction := if rest.head? = some (byte '.') then ((rest.drop 1).takeWhile isDecimal).length + 1 else 0
  if whole = 0 && fraction ≤ 1 then 0
  else
    let rest := rest.drop fraction
    let power := match rest with
      | mark :: after =>
        if mark = byte 'e' || mark = byte 'E' then
          let signed := after.head? = some (byte '-') || after.head? = some (byte '+')
          let digits := ((if signed then after.drop 1 else after).takeWhile isDecimal).length
          if digits = 0 then 0 else 1 + (if signed then 1 else 0) + digits
        else 0
      | [] => 0
    whole + fraction + power

/-- The number that a text without a sign denotes. -/
def decimalNumber (text : Bytes) : Float :=
  let whole := text.takeWhile isDecimal
  let rest := text.drop whole.length
  let places := if rest.head? = some (byte '.') then (rest.drop 1).takeWhile isDecimal else []
  let rest := if rest.head? = some (byte '.') then rest.drop (places.length + 1) else rest
  let power : Int := if rest.isEmpty then 0 else integer (rest.drop 1)
  let power : Int := max (-100000) (min 100000 power)
  numberOf ⟨false, number 10 (whole ++ places), power - places.length⟩

/-- The byte of an escape in a text, and what stands behind it. -/
def escapedByte? (text : Bytes) : Option (UInt8 × Bytes) :=
  match text with
  | [] => none
  | b :: rest =>
    let known : List (Char × UInt8) := [('"', 0x22), ('\\', 0x5C), ('a', 0x07), ('b', 0x08), ('f', 0x0C),
      ('n', 0x0A), ('r', 0x0D), ('t', 0x09), ('v', 0x0B)]
    if isOctal b then
      let digits := (text.take 3).takeWhile isOctal
      some (UInt8.ofNat (number 8 digits), text.drop digits.length)
    else (known.find? fun entry ↦ byte entry.1 == b).map fun entry ↦ (entry.2, rest)

/-- A text with its escapes replaced. -/
def unescaped : Nat → Bytes → Bytes
  | 0, text => text
  | _, [] => []
  | fuel + 1, b :: rest =>
    if b = byte '\\' then
      match escapedByte? rest with
      | some (value, rest) => value :: unescaped fuel rest
      | none => b :: unescaped fuel rest
    else b :: unescaped fuel rest

/-! ## Patterns -/

/-- The bytes of a bracket expression, of which escaped ones have no special meaning, up to its end. -/
def bracketBytes : Nat → Bool → Bytes → List Marked
  | 0, _, _ => []
  | _, _, [] => []
  | fuel + 1, isFirst, b :: rest =>
    if b = byte '\\' then
      match escapedByte? rest with
      | some (value, rest) => (value, true) :: bracketBytes fuel false rest
      | none =>
        match rest with
        | c :: rest => (c, true) :: bracketBytes fuel false rest
        | [] => [(b, true)]
    else (b, false) :: bracketBytes fuel (isFirst && b = byte '^') rest

/-- The number of bytes at the beginning of a text that some marked bytes were read from. -/
def bracketLength : Nat → Nat → Bytes → Nat
  | 0, _, _ => 0
  | _, 0, _ => 0
  | _, _, [] => 0
  | fuel + 1, count + 1, b :: rest =>
    if b = byte '\\' then
      let used := match escapedByte? rest with
        | some (_, after) => rest.length - after.length
        | none => min 1 rest.length
      1 + used + bracketLength fuel count (rest.drop used)
    else 1 + bracketLength fuel count rest

/-- What is wrong with a pattern. -/
inductive PatternFault
  | openGroup
  | openBracket
  | nothingToRepeat
  deriving DecidableEq, Repr

/-- The wording of a fault. -/
def PatternFault.message : PatternFault → String
  | openGroup => "missing \x27)\x27"
  | openBracket => "bad class -- [], [^] or ["
  | nothingToRepeat => "missing operand"

/-- The complaint about a pattern. -/
def PatternFault.text (fault : PatternFault) (pattern : Bytes) : Bytes :=
  bytes "regular expression compile failed (" ++ bytes fault.message ++ bytes ")\n" ++ pattern

/-- The tokens of a pattern. -/
def patternTokens : Nat → Bytes → Except PatternFault (List Regex.Token)
  | 0, _ => .ok []
  | _, [] => .ok []
  | fuel + 1, b :: rest => do
    let one := fun (token : Regex.Token) (rest : Bytes) ↦ (do
      return token :: (← patternTokens fuel rest) : Except PatternFault (List Regex.Token))
    let is := fun (c : Char) ↦ b == byte c
    if is '\\' then
      match escapedByte? rest with
      | some (value, rest) => one (.literal value) rest
      | none =>
        match rest with
        | c :: rest => one (.literal c) rest
        | [] => one (.literal b) []
    else if is '[' then
      let negated := rest.head? = some (byte '^')
      let inner := if negated then rest.drop 1 else rest
      let marked := bracketBytes (inner.length + 1) true inner
      match readClassItems? (marked.length + 1) [] marked with
      | some (items, after) =>
        let used := bracketLength (inner.length + 1) (marked.length - after.length) inner
        one (.atom (.oneOf negated items)) (inner.drop used)
      | none => throw .openBracket
    else if is '.' then one (.atom .any) rest
    else if is '*' then one (.interval 0 none) rest
    else if is '+' then one (.interval 1 none) rest
    else if is '?' then one (.interval 0 (some 1)) rest
    else if is '(' then one .openGroup rest
    else if is ')' then one .closeGroup rest
    else if is '|' then one .bar rest
    else if is '^' then one .start rest
    else if is '$' then one .finish rest
    else if is '\x7b' then
      match Regex.readInterval? true rest with
      | some (least, greatest, rest) => one (.interval least greatest) rest
      | none => one (.literal b) rest
    else one (.literal b) rest

/-- The pattern of a text. -/
def patternOf (text : Bytes) : Except PatternFault Regex := do
  let tokens ← patternTokens (text.length + 1) text
  match tokens.head? with
  | some (.interval _ _) => throw .nothingToRepeat
  | _ => pure ()
  match Regex.readAlternatives true (8 * tokens.length + 32) 0 0 tokens with
  | .ok (regex, _, []) => return regex
  | _ => throw .openGroup

/-! ## Tokens -/

/-- A token. -/
inductive Token
  | newline
  | ending
  | mark (text : Bytes)
  | name (text : Bytes)
  /-- A name with a bracket right behind it. -/
  | callee (text : Bytes)
  | keyword (text : Bytes)
  /-- The name of a function that every script has. -/
  | standard (text : Bytes)
  | number (text : Bytes)
  | text (value : Bytes)
  | pattern (text : Bytes)
  deriving DecidableEq, Repr

/-- A token in its place. -/
structure Placed where
  token : Token
  line : Nat
  /-- The number of brackets that are open in front of it. -/
  depth : Nat := 0

/-- What is wrong with a script that cannot be read, with the lines. -/
abbrev Fault := List (Nat × Bytes)

/-- The words with a meaning of their own. -/
def keywords : List Bytes :=
  ["BEGIN", "END", "function", "func", "if", "else", "while", "for", "do", "break", "continue", "next",
    "nextfile", "exit", "return", "delete", "in", "getline", "print", "printf"].map bytes

/-- The functions that every script has, with the least and the greatest number of arguments. -/
def standardFunctions : List (Bytes × Nat × Nat) :=
  ([("atan2", 2, 2), ("close", 1, 1), ("cos", 1, 1), ("exp", 1, 1), ("fflush", 0, 1), ("gsub", 2, 3),
    ("index", 2, 2), ("int", 1, 1), ("length", 0, 1), ("log", 1, 1), ("match", 2, 2), ("rand", 0, 0),
    ("sin", 1, 1), ("split", 2, 3), ("sprintf", 1, 255), ("sqrt", 1, 1), ("srand", 0, 1), ("sub", 2, 3),
    ("substr", 2, 3), ("system", 1, 1), ("tolower", 1, 1), ("toupper", 1, 1)] :
    List (String × Nat × Nat)).map fun entry ↦ (bytes entry.1, entry.2)

/-- The marks, longer ones before those that they begin with. -/
def marks : List Bytes :=
  ["&&", "||", "++", "--", "+=", "-=", "*=", "/=", "%=", "^=", "==", "<=", ">=", ">>", "!=", "!~", "\x7b",
    "\x7d", "(", ")", "[", "]", ";", ",", "+", "-", "*", "/", "%", "^", "!", ">", "<", "|", "?", ":", "~",
    "$", "="].map bytes

/-- Whether a slash behind a token divides. -/
def Token.endsOperand : Token → Bool
  | .name _ | .number _ | .text _ | .pattern _ => true
  | .mark m => m == bytes ")" || m == bytes "]" || m == bytes "++" || m == bytes "--" || m == bytes "$"
  | .standard m => m == bytes "length"
  | _ => false

/-- A text up to an end that is not escaped, and what stands behind it. -/
def delimited (ender : UInt8) (allowsBrackets : Bool) :
    Nat → Bool → Bytes → Option (Bytes × Bytes)
  | 0, _, _ => none
  | _, _, [] => none
  | fuel + 1, inBrackets, b :: rest =>
    let more := fun (part : Bytes) (inBrackets : Bool) (rest : Bytes) ↦
      (delimited ender allowsBrackets fuel inBrackets rest).map fun (text, rest) ↦ (part ++ text, rest)
    if b = lineEnd then none
    else if b = byte '\\' then
      match rest with
      | c :: rest => if c = lineEnd then more [] inBrackets rest else more [b, c] inBrackets rest
      | [] => none
    else if b = ender && !inBrackets then some ([], rest)
    else if allowsBrackets && b = byte '[' && !inBrackets then
      let head := rest.takeWhile (· == byte '^') |>.take 1
      let head := head ++ ((rest.drop head.length).takeWhile (· == byte ']')).take 1
      more (b :: head) true (rest.drop head.length)
    else if allowsBrackets && b = byte ']' && inBrackets then more [b] false rest
    else more [b] inBrackets rest

/-- The tokens of a script, each with its line. -/
def tokensOf : Nat → Nat → Nat → Token → Bytes → Except Fault (List Placed)
  | 0, line, depth, _, _ => .ok [⟨.ending, line, depth⟩]
  | _, line, depth, _, [] => .ok [⟨.ending, line, depth⟩]
  | fuel + 1, line, depth, before, text@(b :: rest) => do
    let one := fun (token : Token) (rest : Bytes) ↦ (do
      let after := if token = .mark (bytes "(") then depth + 1
        else if token = .mark (bytes ")") then depth - 1
        else depth
      return ⟨token, line, depth⟩ :: (← tokensOf fuel line after token rest) : Except Fault (List Placed))
    if b = lineEnd then
      return ⟨.newline, line, depth⟩ :: (← tokensOf fuel (line + 1) depth .newline rest)
    else if b = byte ' ' || b = 0x09 || b = 0x0D then tokensOf fuel line depth before rest
    else if b = byte '\\' && (rest.head? = some lineEnd || (bytes "\r\n").isPrefixOf rest) then
      tokensOf fuel (line + 1) depth before (rest.dropWhile (· != lineEnd) |>.drop 1)
    else if b = byte '#' then tokensOf fuel line depth before (rest.dropWhile (· != lineEnd))
    else if b = byte '"' then
      match delimited (byte '"') false (rest.length + 1) false rest with
      | some (inner, rest) => one (.text (unescaped inner.length inner)) rest
      | none => throw [(line, bytes "runaway string constant " ++
          (text.takeWhile (· != lineEnd)).take 10 ++ bytes " ...")]
    else if b = byte '/' && !before.endsOperand then
      match delimited (byte '/') true (rest.length + 1) false rest with
      | some (inner, rest) => one (.pattern inner) rest
      | none => throw [(line, bytes "runaway regular expression " ++
          (text.takeWhile (· != lineEnd)).take 10 ++ bytes " ...")]
    else if 0 < lengthOfNumber text then
      let length := lengthOfNumber text
      one (.number (text.take length)) (text.drop length)
    else if isWordByte b || b = byte '_' then
      let word := text.takeWhile fun c ↦ isWordByte c || c == byte '_'
      let rest := text.drop word.length
      if keywords.contains word then one (.keyword word) rest
      else if standardFunctions.any fun entry ↦ entry.1 == word then one (.standard word) rest
      else if rest.head? = some (byte '(') then one (.callee word) rest
      else one (.name word) rest
    else
      match marks.find? fun mark ↦ mark.isPrefixOf text with
      | some mark => one (.mark mark) (text.drop mark.length)
      | none => throw [(0, ofNatural line ++ bytes ": unexpected character \x27" ++ [b] ++ bytes "\x27")]

/-! ## Expressions -/

/-- What surrounds a statement. -/
structure Surroundings where
  inLoop : Bool := false
  inFunction : Bool := false
  /-- Whether there is a record that can be left. -/
  hasRecord : Bool := true

/-- What is left of a script, and what surrounds it. -/
abbrev Reading := ReaderT Surroundings (StateT (List Placed) (Except Fault))

/-- Where an expression stands. -/
structure Place where
  /-- Behind `print`, where a greater sign leads to an outlet. -/
  isPrinted : Bool := false
  /-- At the beginning of a loop over an array. -/
  avoidsIn : Bool := false

namespace Reading

/-- The next token and its line. -/
def peek : Reading Token := do
  return ((← get).head?.map Placed.token).getD .ending

/-- The line of the next token. -/
def lineHere : Reading Nat := do
  return ((← get).head?.map Placed.line).getD 1

/-- A mistake is noticed. -/
def fault {α : Type} (message : Bytes) : Reading α := do
  throw [(← lineHere, message)]

/-- The next token is consumed. -/
def skip : Reading Unit :=
  modify (List.drop 1)

/-- Whether a mark comes next. -/
def sees (mark : String) : Reading Bool := do
  return (← peek) == .mark (bytes mark)

/-- A mark is consumed if it comes next. -/
def takes (mark : String) : Reading Bool := do
  if ← sees mark then
    skip
    return true
  else return false

/-- Whether a keyword comes next, which is consumed. -/
def takesWord (word : String) : Reading Bool := do
  if (← peek) == .keyword (bytes word) then
    skip
    return true
  else return false

/-- How a token is called in complaints. -/
def shown : Token → Bytes
  | .newline => bytes "end of line"
  | .ending => bytes "end of file"
  | .mark m | .name m | .callee m | .keyword m | .standard m | .number m => m
  | .text value => value
  | .pattern text => byte '/' :: text ++ [byte '/']

/-- The next token may not stand here. -/
def unexpected {α : Type} : Reading α := do
  let token ← peek
  let isOpen := 0 < ((← get).head?.map Placed.depth).getD 0
  let unclosed := bytes "missing \x7d near end of file"
  if token = .ending then fault unclosed
  else if isOpen && token = .mark (bytes "\x7d") then fault (bytes "missing ) near " ++ shown token)
  else if isOpen && token = .newline then
    let line ← lineHere
    let last := (← get).getLast?.map Placed.line
    throw [(line, bytes "missing ) near " ++ shown token), (last.getD line, unclosed)]
  else if !isOpen && token = .mark (bytes ")") then fault (bytes "extra \x27)\x27")
  else fault (bytes "syntax error at or near " ++ shown token)

/-- A mark is expected. -/
def expect (mark : String) : Reading Unit := do
  if ← takes mark then return () else unexpected

/-- Line ends are passed over. -/
def skipLines : Nat → Reading Unit
  | 0 => return ()
  | fuel + 1 => do
    if (← peek) == .newline then
      skip
      skipLines fuel

/-- Line ends and semicolons are passed over. -/
def skipEnds : Nat → Reading Unit
  | 0 => return ()
  | fuel + 1 => do
    if (← peek) == .newline || (← sees ";") then
      skip
      skipEnds fuel

end Reading

open Reading

/-- Whether something can be assigned to an expression. -/
def Expression.isTarget : Expression → Bool
  | .field _ | .variable _ | .element _ _ => true
  | _ => false

/-- The operations of marks that assign. -/
def assignments : List (Bytes × Option Operation) :=
  ([("=", none), ("+=", some .add), ("-=", some .subtract), ("*=", some .multiply), ("/=", some .divide),
    ("%=", some .remainder), ("^=", some .power)] : List (String × Option Operation)).map
    fun entry ↦ (bytes entry.1, entry.2)

/-- The comparisons of marks. -/
def comparisons : List (Bytes × Comparison) :=
  ([("<", .less), ("<=", .atMost), ("==", .equal), ("!=", .different), (">", .greater), (">=", .atLeast)] :
    List (String × Comparison)).map fun entry ↦ (bytes entry.1, entry.2)

/-- The operations of marks between terms, and between factors. -/
def operations (betweenTerms : Bool) : List (Bytes × Operation) :=
  (if betweenTerms then [(bytes "+", .add), (bytes "-", .subtract)]
  else [(bytes "*", .multiply), (bytes "/", .divide), (bytes "%", .remainder)])

/-- Whether an operand may begin with a token. -/
def Token.beginsOperand : Token → Bool
  | .name _ | .callee _ | .standard _ | .number _ | .text _ | .pattern _ => true
  | .mark m => ["!", "$", "(", "-", "+", "++", "--"].any fun mark ↦ m == bytes mark
  | _ => false

mutual

/-- An expression. -/
def readExpression : Nat → Place → Reading Expression
  | 0, _ => unexpected
  | fuel + 1, place => do
    let condition ← readBinary fuel place 0
    if ← takes "?" then
      skipLines fuel
      let first ← readExpression fuel place
      skipLines fuel
      expect ":"
      skipLines fuel
      let second ← readExpression fuel place
      return .choice condition first second
    else return condition

/-- An expression of operands and operators that bind at least as closely as a level says: either, both,
membership, fitting, comparison, joining, terms and factors. -/
def readBinary : Nat → Place → Nat → Reading Expression
  | 0, _, _ => unexpected
  | fuel + 1, place, level => do
    if 8 ≤ level then readUnary fuel place
    else
      let first ← readBinary fuel place (level + 1)
      if level = 5 && first.isTarget then
        match (← peek) with
        | .mark m =>
          match assignments.find? fun entry ↦ entry.1 == m with
          | some (_, operation) =>
            skip
            skipLines fuel
            return .assign first operation (← readExpression fuel place)
          | none => readMore fuel place level first
        | _ => readMore fuel place level first
      else readMore fuel place level first

/-- Operators of a level and their second operands, behind a first one. -/
def readMore : Nat → Place → Nat → Expression → Reading Expression
  | 0, _, _, _ => unexpected
  | fuel + 1, place, level, first => do
    let token ← peek
    let second := fun (_ : Unit) ↦ (do
      skip
      readBinary fuel place (level + 1) : Reading Expression)
    match level, token with
    | 0, .mark [0x7C, 0x7C] =>
      skip
      skipLines fuel
      readMore fuel place level (.either first (← readBinary fuel place 1))
    | 1, .mark [0x26, 0x26] =>
      skip
      skipLines fuel
      readMore fuel place level (.both first (← readBinary fuel place 2))
    | 2, .keyword word =>
      if word = bytes "in" && !place.avoidsIn then
        skip
        match (← peek) with
        | .name name =>
          skip
          let keys := match first with
            | .group inner => [inner]
            | other => [other]
          readMore fuel place level (.contains keys name)
        | _ => unexpected
      else return first
    | 3, .mark m =>
      if m = bytes "~" || m = bytes "!~" then
        let pattern ← match ← second () with
          | .text text =>
            match patternOf text with
            | .ok regex => pure (Expression.pattern regex)
            | .error fault => Reading.fault (fault.text text)
          | other => pure other
        readMore fuel place level (.fits (m == bytes "!~") first pattern)
      else return first
    | 4, .mark m =>
      if place.isPrinted && m = bytes ">" then return first
      else
        match comparisons.find? fun entry ↦ entry.1 == m with
        | some (_, comparison) =>
          readMore fuel place level (.compare comparison first (← second ()))
        | none => return first
    | 5, token =>
      let isSign := token = .mark (bytes "+") || token = .mark (bytes "-")
      if token.beginsOperand && !isSign then
        readMore fuel place level (.join first (← readBinary fuel place 6))
      else return first
    | 6, .mark m =>
      match (operations true).find? fun entry ↦ entry.1 == m with
      | some (_, operation) => readMore fuel place level (.arithmetic operation first (← second ()))
      | none => return first
    | 7, .mark m =>
      match (operations false).find? fun entry ↦ entry.1 == m with
      | some (_, operation) => readMore fuel place level (.arithmetic operation first (← second ()))
      | none => return first
    | _, _ => return first

/-- A sign or a negation and what it applies to; a command whose output is read. -/
def readUnary : Nat → Place → Reading Expression
  | 0, _ => unexpected
  | fuel + 1, place => do
    if ← takes "!" then return .negated (← readUnary fuel place)
    else if ← takes "-" then return .sign true (← readUnary fuel place)
    else if ← takes "+" then return .sign false (← readUnary fuel place)
    else readPipes fuel place (← readPower fuel place)

/-- Commands whose output is read, behind the text of the first one. -/
def readPipes : Nat → Place → Expression → Reading Expression
  | 0, _, _ => unexpected
  | fuel + 1, place, command => do
    let rest ← get
    if !place.isPrinted && (← sees "|") && (rest.drop 1).head?.any fun next ↦
        next.token == .keyword (bytes "getline") then
      skip
      skip
      let target ← readTarget fuel place
      readPipes fuel place (.readRecord (some (.command, command)) target)
    else return command

/-- What a record is read into, if anything is named. -/
def readTarget : Nat → Place → Reading (Option Expression)
  | 0, _ => unexpected
  | fuel + 1, place => do
    match (← peek) with
    | .name _ => return some (← readPrimary fuel place)
    | token => if token = .mark (bytes "$") then return some (← readPrimary fuel place) else return none

/-- An operand with a power. -/
def readPower : Nat → Place → Reading Expression
  | 0, _ => unexpected
  | fuel + 1, place => do
    let base ← readStep fuel place
    if ← takes "^" then return .arithmetic .power base (← readExponent fuel place) else return base

/-- A power, which may have a sign. -/
def readExponent : Nat → Place → Reading Expression
  | 0, _ => unexpected
  | fuel + 1, place => do
    if ← takes "-" then return .sign true (← readExponent fuel place)
    else if ← takes "+" then return .sign false (← readExponent fuel place)
    else if ← takes "!" then return .negated (← readExponent fuel place)
    else readPower fuel place

/-- An operand that may go up or down by one. -/
def readStep : Nat → Place → Reading Expression
  | 0, _ => unexpected
  | fuel + 1, place => do
    let before ← peek
    if before = .mark (bytes "++") || before = .mark (bytes "--") then
      skip
      let target ← readPrimary fuel place
      if target.isTarget then return .step target (before == .mark (bytes "++")) false
      else unexpected
    else
      let target ← readPrimary fuel place
      if target.isTarget then
        if ← takes "++" then return .step target true true
        else if ← takes "--" then return .step target false true
        else return target
      else return target

/-- Expressions between commas, up to the end of their brackets. -/
def readArguments : Nat → String → List Expression → Reading (List Expression)
  | 0, _, _ => unexpected
  | fuel + 1, ender, before => do
    let next ← readExpression fuel {}
    if ← takes "," then
      skipLines fuel
      readArguments fuel ender (before ++ [next])
    else
      expect ender
      return before ++ [next]

/-- The arguments of a function, behind the opening bracket. -/
def readCall : Nat → Reading (List Expression)
  | 0 => unexpected
  | fuel + 1 => do
    if ← takes ")" then return [] else readArguments fuel ")" []

/-- A primary operand. -/
def readPrimary : Nat → Place → Reading Expression
  | 0, _ => unexpected
  | fuel + 1, place => do
    match ← peek with
    | .number text =>
      skip
      return .number (decimalNumber text)
    | .text value =>
      skip
      return .text value
    | .pattern text =>
      skip
      match patternOf text with
      | .ok regex => return .pattern regex
      | .error fault => Reading.fault (fault.text text)
    | .name name =>
      skip
      if ← takes "[" then return .element name (← readArguments fuel "]" [])
      else return .variable name
    | .callee name =>
      skip
      skip
      return .call name (← readCall fuel)
    | .standard name =>
      skip
      let arguments ← if ← takes "(" then readCall fuel
        else if name = bytes "length" || name = bytes "fflush" then pure [] else unexpected
      match standardFunctions.find? fun entry ↦ entry.1 == name with
      | some (_, least, greatest) =>
        if arguments.length < least || greatest < arguments.length then
          fault (bytes "wrong number of arguments in call to " ++ name)
        else return .standard name arguments
      | none => unexpected
    | .keyword word =>
      if word = bytes "getline" then
        skip
        let target ← readTarget fuel place
        if ← takes "<" then
          return .readRecord (some (.file, ← readStep fuel place)) target
        else return .readRecord none target
      else unexpected
    | .mark m =>
      if m = bytes "$" then
        skip
        if (← sees "++") || (← sees "--") then return .field (← readStep fuel place)
        else if ← takes "-" then return .field (.sign true (← readPrimary fuel place))
        else if ← takes "+" then return .field (.sign false (← readPrimary fuel place))
        else if ← takes "!" then return .field (.negated (← readPrimary fuel place))
        else return .field (← readPrimary fuel place)
      else if m = bytes "(" then
        skip
        match ← readArguments fuel ")" [] with
        | [inner] => return .group inner
        | keys =>
          if ← takesWord "in" then
            match (← peek) with
            | .name name =>
              skip
              return .contains keys name
            | _ => unexpected
          else unexpected
      else if m = bytes "-" || m = bytes "+" || m = bytes "!" then readUnary fuel place
      else unexpected
    | _ => unexpected

end

/-! ## Statements -/

/-- Expressions between commas. -/
def readList (place : Place) : Nat → List Expression → Reading (List Expression)
  | 0, _ => unexpected
  | fuel + 1, before => do
    let next ← readExpression fuel place
    if ← takes "," then
      skipLines fuel
      readList place fuel (before ++ [next])
    else return before ++ [next]

/-- Whether a statement ends in front of a token. -/
def Token.endsStatement : Token → Bool
  | .newline | .ending => true
  | .mark m => m == bytes ";" || m == bytes "\x7d"
  | _ => false

/-- Whether a token leads to an outlet. -/
def Token.isOutlet (token : Token) : Bool :=
  [">", ">>", "|"].any fun mark ↦ token == .mark (bytes mark)

/-- What is printed, and where. -/
def readPrinted (fuel : Nat) : Reading (List Expression × Option (Outlet × Expression)) := do
  let tokens ← get
  let values ←
    if (← peek).endsStatement || (← peek).isOutlet then pure []
    else
      let inBrackets : Reading (List Expression) := do
        expect "("
        let values ← readArguments fuel ")" []
        let token ← peek
        if token.endsStatement || token.isOutlet then return values else unexpected
      match (inBrackets.run (← read)).run tokens with
      | .ok (values, rest) =>
        set rest
        pure values
      | .error _ => readList { isPrinted := true } fuel []
  let outlet := fun (kind : Outlet) ↦ (do
    skip
    return (values, some (kind, ← readBinary fuel { isPrinted := true } 5)) :
      Reading (List Expression × Option (Outlet × Expression)))
  if ← sees ">" then outlet .file
  else if ← sees ">>" then outlet .append
  else if ← sees "|" then outlet .command
  else return (values, none)

/-- What is read inside a loop. -/
def looped {α : Type} (reader : Reading α) : Reading α :=
  withReader (fun surroundings ↦ { surroundings with inLoop := true }) reader

/-- A statement without others inside. -/
def readSimple (fuel : Nat) : Reading Statement := do
  let optional : Reading (Option Expression) := do
    if (← peek).endsStatement then return none else return some (← readExpression fuel {})
  match (← peek) with
  | .keyword word =>
    if word = bytes "print" then
      skip
      let (values, outlet) ← readPrinted fuel
      return .print values outlet
    else if word = bytes "printf" then
      skip
      let (values, outlet) ← readPrinted fuel
      if values.isEmpty then unexpected
      return .printFormatted values outlet
    else if word = bytes "next" || word = bytes "nextfile" then
      if !(← read).hasRecord then fault (bytes "improper use of next")
      skip
      return .next
    else if word = bytes "exit" then
      skip
      return .exit (← optional)
    else if word = bytes "return" then
      if !(← read).inFunction then fault (bytes "return outside function body")
      skip
      return .giveBack (← optional)
    else if word = bytes "break" then
      if !(← read).inLoop then fault (bytes "break statement outside of loop")
      skip
      return .leave
    else if word = bytes "continue" then
      if !(← read).inLoop then fault (bytes "continue statement outside of loop")
      skip
      return .again
    else if word = bytes "delete" then
      skip
      match (← peek) with
      | .name name =>
        skip
        if ← takes "[" then return .delete name (← readArguments fuel "]" [])
        else return .delete name []
      | _ => unexpected
    else return .calculate (← readExpression fuel {})
  | _ => return .calculate (← readExpression fuel {})

/-- The name and the array of a loop over an array, if there is one behind the bracket. -/
def readMembers? : Reading (Option (Bytes × Bytes)) := do
  match ← get with
  | ⟨.name name, _, _⟩ :: ⟨.keyword word, _, _⟩ :: ⟨.name array, _, _⟩ :: ⟨.mark m, _, _⟩ :: rest =>
    if word = bytes "in" && m = bytes ")" then
      set rest
      return some (name, array)
    else return none
  | _ => return none

/-- The end of a statement. -/
def readEnd : Reading Unit := do
  let token ← peek
  if token = .newline || token = .mark (bytes ";") then skip
  else if token = .mark (bytes "\x7d") then return ()
  else unexpected

mutual

/-- A statement. -/
def readStatement : Nat → Reading Statement
  | 0 => unexpected
  | fuel + 1 => do
    if ← takes "\x7b" then
      let body ← readStatements fuel []
      return .block body
    else if ← takes ";" then return .nothing
    else if ← takesWord "if" then
      expect "("
      let condition ← readExpression fuel {}
      expect ")"
      skipLines fuel
      let first ← readStatement fuel
      let tokens ← get
      skipEnds fuel
      if ← takesWord "else" then
        skipLines fuel
        return .choice condition first (← readStatement fuel)
      else
        set tokens
        return .choice condition first .nothing
    else if ← takesWord "while" then
      expect "("
      let condition ← readExpression fuel {}
      expect ")"
      if ← takes ";" then return .loop condition .nothing .nothing
      else
        skipLines fuel
        return .loop condition (← looped (readStatement fuel)) .nothing
    else if ← takesWord "do" then
      skipLines fuel
      let body ← looped (readStatement fuel)
      skipEnds fuel
      if !(← takesWord "while") then unexpected
      expect "("
      let condition ← readExpression fuel {}
      expect ")"
      readEnd
      return .loopBehind body condition
    else if ← takesWord "for" then
      expect "("
      match ← readMembers? with
      | some (name, array) =>
        skipLines fuel
        return .forEach name array (← looped (readStatement fuel))
      | none =>
        let start ← if ← sees ";" then pure Statement.nothing else readSimple fuel
        expect ";"
        skipLines fuel
        let condition ← if ← sees ";" then pure (Expression.number 1.0) else readExpression fuel {}
        expect ";"
        skipLines fuel
        let after ← if ← sees ")" then pure Statement.nothing else readSimple fuel
        expect ")"
        let body ← if ← takes ";" then pure Statement.nothing
          else do
            skipLines fuel
            looped (readStatement fuel)
        return .block [start, .loop condition body after]
    else
      let statement ← readSimple fuel
      readEnd
      return statement

/-- Statements up to a closing brace. -/
def readStatements : Nat → List Statement → Reading (List Statement)
  | 0, _ => unexpected
  | fuel + 1, before => do
    skipEnds fuel
    if ← takes "\x7d" then return before.reverse
    else readStatements fuel ((← readStatement fuel) :: before)

end

/-- The names of parameters. -/
def readParameters : Nat → List Bytes → Reading (List Bytes)
  | 0, _ => unexpected
  | fuel + 1, before => do
    match (← peek) with
    | .name name =>
      skip
      if ← takes "," then
        skipLines fuel
        readParameters fuel (before ++ [name])
      else
        expect ")"
        return before ++ [name]
    | _ => unexpected

/-- The rules and functions of a script. -/
def readProgram : Nat → Program → Reading Program
  | 0, _ => unexpected
  | fuel + 1, program => do
    skipEnds fuel
    let token ← peek
    let action : Reading (Option Statement) := do
      if ← takes "\x7b" then return some (.block (← readStatements fuel [])) else return none
    let rule := fun (moment : Moment) (needsBody : Bool) ↦ (do
      let hasRecord := match moment with
        | .start | .finish => false
        | _ => true
      let body ← withReader (fun surroundings ↦ { surroundings with hasRecord }) action
      if needsBody && body.isNone then unexpected
      readProgram fuel { program with rules := program.rules ++ [⟨moment, body⟩] } : Reading Program)
    match token with
    | .ending => return program
    | .mark m =>
      if m = bytes "\x7b" then rule .always true
      else if m = bytes "\x7d" then throw [(← lineHere, bytes "extra \x27\x7d\x27"), (← lineHere, bytes "syntax error at or near end of line")]
      else if m = bytes ")" then throw [(← lineHere, bytes "extra \x27)\x27"), (← lineHere, bytes "syntax error at or near end of line")]
      else readCondition fuel rule
    | .keyword word =>
      if word = bytes "BEGIN" then
        skip
        rule .start true
      else if word = bytes "END" then
        skip
        rule .finish true
      else if word = bytes "function" || word = bytes "func" then
        skip
        let name ← match (← peek) with
          | .name name | .callee name => pure name
          | _ => unexpected
        skip
        expect "("
        let parameters ← if ← takes ")" then pure [] else readParameters fuel []
        skipLines fuel
        if program.functions.any fun function ↦ function.name == name then
          fault (bytes "redefinition of " ++ name)
        expect "\x7b"
        let body ← withReader (fun surroundings ↦ { surroundings with inFunction := true, hasRecord := false })
          (readStatements fuel [])
        readProgram fuel
          { program with functions := program.functions ++ [⟨name, parameters, .block body⟩] }
      else readCondition fuel rule
    | _ => readCondition fuel rule
where
  readCondition (fuel : Nat) (rule : Moment → Bool → Reading Program) : Reading Program := do
    let condition ← readExpression fuel {}
    if ← takes "," then
      skipLines fuel
      let last ← readExpression fuel {}
      rule (.between condition last) false
    else
      let token ← peek
      if token.endsStatement || token = .mark (bytes "\x7b") then rule (.when condition) false
      else unexpected

/-- The program of a text. -/
def Program.read (text : Bytes) : Except Fault Program := do
  let text := text ++ [lineEnd]
  let tokens ← tokensOf (text.length + 1) 1 0 .newline text
  let (program, _) ← ((readProgram (24 * tokens.length + 64) {}).run {}).run tokens
  let called := tokens.filterMap fun placed ↦
    match placed.token with
    | .callee name => some name
    | _ => none
  let unknown := called.eraseDups.filter fun name ↦ (program.function? name).isNone
  if unknown.isEmpty then return program
  else
    let last := (tokens.getLast?.map Placed.line).getD 1
    throw (unknown.reverse.map fun name ↦ (last, bytes "function " ++ name ++ bytes " never defined"))

end CodeRepair.Shell.Scanning
