import CodeRepair.Shell.Glob

/-!
# Regular expressions

Regular expressions in the basic and the extended spelling, over bytes.  Of the matches that begin
first the longest one counts, if there are alternatives; without alternatives each repetition takes as
much as it can.
-/

namespace CodeRepair.Shell

/-- A regular expression. -/
inductive Regex
  | nothing
  | literal (b : UInt8)
  | any
  | oneOf (negated : Bool) (items : List ClassItem)
  | lineStart
  | lineEnd
  /-- Between two bytes of which just one, or none and both, belong to words. -/
  | wordEdge (isEdge : Bool)
  | wordStart
  | wordEnd
  | group (number : Nat) (inner : Regex)
  /-- What a group stood for. -/
  | again (number : Nat)
  | sequence (first second : Regex)
  | either (first second : Regex)
  | repeated (inner : Regex) (least : Nat) (greatest : Option Nat)

namespace Regex

/-! ## Matching -/

/-- A place in a text, and what groups stood for on the way to it. -/
structure Place where
  before : Option UInt8 := none
  rest : Bytes
  position : Nat := 0
  groups : List (Nat × Bytes) := []

/-- How matching goes. -/
structure Mode where
  ignoresCase : Bool := false
  /-- All ways are tried for the longest match. -/
  seeksLongest : Bool := false
  /-- Line feeds begin and end lines too. -/
  hasLines : Bool := false

/-- Whether bytes are taken for the same. -/
def Mode.same (mode : Mode) (a b : UInt8) : Bool :=
  a == b || (mode.ignoresCase && toSmall a == toSmall b)

/-- Whether a byte belongs to words. -/
def isWord (b : UInt8) : Bool := isWordByte b || b == byte '_'

/-- The better one of two ways, the second of which is tried only if it may be better. -/
def Mode.better (mode : Mode) (first : Option Place) (second : Unit → Option Place) :
    Option Place :=
  match first with
  | none => second ()
  | some place =>
    if mode.seeksLongest then
      match second () with
      | some other => if place.position < other.position then some other else some place
      | none => some place
    else some place

/-- The place behind the next byte, if that is of a kind. -/
def Place.pass (place : Place) (admits : UInt8 → Bool) : Option Place :=
  match place.rest with
  | b :: rest =>
    if admits b then some { place with before := some b, rest, position := place.position + 1 }
    else none
  | [] => none

/-- A step repeated between two numbers of times, as often as possible first. -/
def iterate (mode : Mode) (step : Place → (Place → Option Place) → Option Place) :
    Nat → Nat → Option Nat → Place → (Place → Option Place) → Option Place
  | 0, _, _, place, next => next place
  | fuel + 1, least, greatest, place, next =>
    let onward := fun (_ : Unit) ↦ if least = 0 then next place else none
    if greatest = some 0 then onward ()
    else mode.better
      (step place fun after ↦
        if after.position = place.position && least = 0 then none
        else iterate mode step fuel (least - 1) (greatest.map (· - 1)) after next)
      onward

/-- The end of a match that begins at a place, if what comes behind it ends well too. -/
def run (mode : Mode) : Regex → Place → (Place → Option Place) → Option Place
  | nothing, place, next => next place
  | literal b, place, next => (place.pass (mode.same b)).bind next
  | any, place, next => (place.pass fun _ ↦ true).bind next
  | oneOf negated items, place, next =>
    let isIn := fun b ↦ items.any fun item ↦ item.admits b
    (place.pass fun b ↦
      (isIn b || (mode.ignoresCase && (isIn (toSmall b) || isIn (toCapital b)))) != negated).bind next
  | lineStart, place, next =>
    if place.before.isNone || (mode.hasLines && place.before = some Shell.lineEnd) then next place
    else none
  | lineEnd, place, next =>
    if place.rest.isEmpty || (mode.hasLines && place.rest.head? = some Shell.lineEnd) then next place
    else none
  | wordEdge isEdge, place, next =>
    if ((place.before.map isWord).getD false != (place.rest.head?.map isWord).getD false) == isEdge then
      next place
    else none
  | wordStart, place, next =>
    if !(place.before.map isWord).getD false && (place.rest.head?.map isWord).getD false then next place
    else none
  | wordEnd, place, next =>
    if (place.before.map isWord).getD false && !(place.rest.head?.map isWord).getD false then next place
    else none
  | group number inner, place, next =>
    run mode inner place fun after ↦
      next { after with
        groups := (number, place.rest.take (after.position - place.position)) ::
          after.groups.filter fun entry ↦ entry.1 != number }
  | again number, place, next =>
    match place.groups.find? fun entry ↦ entry.1 == number with
    | some (_, text) =>
      if text.length ≤ place.rest.length && (text.zip place.rest).all fun pair ↦ mode.same pair.1 pair.2
      then next { place with
        before := if text.isEmpty then place.before else text.getLast?
        rest := place.rest.drop text.length
        position := place.position + text.length }
      else none
    | none => none
  | sequence first second, place, next => run mode first place fun after ↦ run mode second after next
  | either first second, place, next =>
    mode.better (run mode first place next) fun _ ↦ run mode second place next
  | repeated inner least greatest, place, next =>
    iterate mode (run mode inner) (place.rest.length + least + 1) least greatest place next

/-- Whether there are alternatives in an expression. -/
def hasAlternatives : Regex → Bool
  | either _ _ => true
  | group _ inner => inner.hasAlternatives
  | sequence first second => first.hasAlternatives || second.hasAlternatives
  | repeated inner _ _ => inner.hasAlternatives
  | _ => false

/-- Whether there are groups in an expression. -/
def hasGroup : Regex → Bool
  | group _ _ => true
  | either first second => first.hasGroup || second.hasGroup
  | sequence first second => first.hasGroup || second.hasGroup
  | repeated inner _ _ => inner.hasGroup
  | _ => false

/-- A match: where it begins, what it is and what the groups stood for. -/
structure Match where
  start : Nat
  text : Bytes
  groups : List (Nat × Bytes)
  /-- The byte in front of the text behind the match. -/
  before : Option UInt8
  rest : Bytes

/-- The first match at or behind a place. -/
def findFrom (regex : Regex) (mode : Mode) : Option UInt8 → Nat → Bytes → Option Match
  | before, position, text =>
    match regex.run mode { before, rest := text, position } some with
    | some after =>
      some ⟨position, text.take (after.position - position), after.groups, after.before, after.rest⟩
    | none =>
      match text with
      | [] => none
      | b :: rest => findFrom regex mode (some b) (position + 1) rest

/-- The mode for an expression. -/
def modeFor (regex : Regex) (ignoresCase : Bool) : Mode :=
  { ignoresCase, seeksLongest := regex.hasAlternatives }

/-- The first match in a text. -/
def find? (regex : Regex) (ignoresCase : Bool) (text : Bytes) : Option Match :=
  regex.findFrom (regex.modeFor ignoresCase) none 0 text

/-! ## Reading -/

/-- What is wrong with an expression. -/
inductive Fault
  | malformed
  | openBracket
  | badRange
  | openGroup
  | closedGroup
  | openInterval
  | badInterval
  | nothingToRepeat
  | missingGroup
  | trailingBackslash
  | badClass
  /-- The name of a class stands in brackets without another pair of brackets. -/
  | bareClass
  deriving DecidableEq, Repr

/-- The wording of a fault. -/
def Fault.message : Fault → String
  | malformed => "Invalid regular expression"
  | openBracket => "Unmatched [, [^, [:, [., or [="
  | badRange => "Invalid range end"
  | openGroup => "Unmatched ( or \\("
  | closedGroup => "Unmatched ) or \\)"
  | openInterval => "Unmatched \\\x7b"
  | badInterval => "Invalid content of \\\x7b\\\x7d"
  | nothingToRepeat => "Invalid preceding regular expression"
  | missingGroup => "Invalid back reference"
  | trailingBackslash => "Trailing backslash"
  | badClass => "Invalid character class name"
  | bareClass => "character class syntax is [[:space:]], not [:space:]"

/-- A token of an expression; the spelling decides which characters are operators. -/
inductive Token
  | literal (b : UInt8)
  | atom (regex : Regex)
  | openGroup
  | closeGroup
  | bar
  | interval (least : Nat) (greatest : Option Nat)
  | start
  | finish

/-- The numbers between braces, and the text after them. -/
def readInterval? (extended : Bool) (text : Bytes) : Option (Nat × Option Nat × Bytes) :=
  let first := text.takeWhile isDecimal
  let rest := text.dropWhile isDecimal
  let close? := fun (rest : Bytes) ↦
    match rest with
    | a :: b :: after =>
      if extended then (if a = byte '\x7d' then some (b :: after) else none)
      else if a = byte '\\' && b = byte '\x7d' then some after else none
    | [a] => if extended && a = byte '\x7d' then some [] else none
    | [] => none
  if rest.head? = some (byte ',') then
    let second := (rest.drop 1).takeWhile isDecimal
    (close? ((rest.drop 1).dropWhile isDecimal)).map fun after ↦
      (number 10 first, if second.isEmpty then none else some (number 10 second), after)
  else if first.isEmpty then none
  else (close? rest).map fun after ↦ (number 10 first, some (number 10 first), after)

/-- Bytes that are all unquoted for brackets. -/
def unquoted (text : Bytes) : List Marked :=
  text.map fun b ↦ (b, false)

/-- The token behind a backslash, and the text after it. -/
def escapeToken (extended : Bool) (b : UInt8) (rest : Bytes) : Except Fault (Token × Bytes) :=
  let spaces : List ClassItem := [.named isWhite]
  let words : List ClassItem := [.named isWord]
  let is := fun (c : Char) ↦ b == byte c
  if is 'w' then .ok (.atom (.oneOf false words), rest)
  else if is 'W' then .ok (.atom (.oneOf true words), rest)
  else if is 's' then .ok (.atom (.oneOf false spaces), rest)
  else if is 'S' then .ok (.atom (.oneOf true spaces), rest)
  else if is 'b' then .ok (.atom (.wordEdge true), rest)
  else if is 'B' then .ok (.atom (.wordEdge false), rest)
  else if is '<' then .ok (.atom .wordStart, rest)
  else if is '>' then .ok (.atom .wordEnd, rest)
  else if is '\x60' then .ok (.atom .lineStart, rest)
  else if is '\x27' then .ok (.atom .lineEnd, rest)
  else if isDecimal b && b != byte '0' then .ok (.atom (.again (digitOf b)), rest)
  else if extended then .ok (.literal b, rest)
  else if is '(' then .ok (.openGroup, rest)
  else if is ')' then .ok (.closeGroup, rest)
  else if is '|' then .ok (.bar, rest)
  else if is '+' then .ok (.interval 1 none, rest)
  else if is '?' then .ok (.interval 0 (some 1), rest)
  else if is '\x7b' then
    match readInterval? false rest with
    | some (least, greatest, rest) => .ok (.interval least greatest, rest)
    | none => .error (if rest.contains (byte '\x7d') then .badInterval else .openInterval)
  else .ok (.literal b, rest)

/-- Whether a class is named inside brackets that is not known. -/
def hasUnknownClass : Bytes → Bool
  | a :: b :: rest =>
    if a = byte '[' && b = byte ':' then
      let name := rest.takeWhile isSmall
      let isClosed := (bytes ":]").isPrefixOf (rest.drop name.length)
      (isClosed && (namedClass? name).isNone) || hasUnknownClass (b :: rest)
    else hasUnknownClass (b :: rest)
  | _ => false

/-- The tokens of an expression. -/
def tokens (extended : Bool) : Nat → Bytes → Except Fault (List Token)
  | 0, _ => .ok []
  | _, [] => .ok []
  | fuel + 1, b :: rest => do
    let is := fun (c : Char) ↦ b == byte c
    let one := fun (token : Token) ↦ (do return token :: (← tokens extended fuel rest) :
      Except Fault (List Token))
    if is '\\' then
      match rest with
      | [] => throw .trailingBackslash
      | c :: rest =>
        let (token, rest) ← escapeToken extended c rest
        return token :: (← tokens extended fuel rest)
    else if is '[' then
      let (negated, inner) := if rest.head? = some (byte '^') then (true, rest.drop 1) else (false, rest)
      if inner.isEmpty then throw .malformed
      match readClassItems? (inner.length + 1) [] (unquoted inner) with
      | some (items, after) =>
        let used := inner.take (inner.length - after.length)
        if hasUnknownClass used then throw .badClass
        if 2 < used.length && used.head? = some (byte ':') && (bytes "]:").isPrefixOf used.reverse then
          throw .bareClass
        if items.any ClassItem.isReversed then throw .badRange
        return .atom (.oneOf negated items) :: (← tokens extended fuel (after.map Prod.fst))
      | none => throw .openBracket
    else if is '.' then one (.atom .any)
    else if is '*' then one (.interval 0 none)
    else if is '^' then one .start
    else if is '$' then one .finish
    else if extended then
      if is '(' then one .openGroup
      else if is ')' then one .closeGroup
      else if is '|' then one .bar
      else if is '+' then one (.interval 1 none)
      else if is '?' then one (.interval 0 (some 1))
      else if is '\x7b' then
        match readInterval? true rest with
        | some (least, greatest, rest) =>
          return .interval least greatest :: (← tokens extended fuel rest)
        | none => one (.literal b)
      else one (.literal b)
    else one (.literal b)

/-- An expression, the number of groups so far, and the tokens after it. -/
abbrev Result := Except Fault (Regex × Nat × List Token)

/-- Whether a place in an expression is the beginning or the end of an alternative. -/
def isEdge : List Token → Bool
  | [] => true
  | .bar :: _ => true
  | .closeGroup :: _ => true
  | _ => false

mutual

/-- Alternatives. -/
def readAlternatives (extended : Bool) : Nat → Nat → Nat → List Token → Result
  | 0, _, _, _ => .error .openGroup
  | fuel + 1, depth, groups, tokens => do
    let (first, groups, rest) ← readSequence extended fuel depth groups true .nothing tokens
    match rest with
    | .bar :: rest =>
      let (second, groups, rest) ← readAlternatives extended fuel depth groups rest
      return (.either first second, groups, rest)
    | _ => return (first, groups, rest)

/-- Atoms one after the other, behind an expression. -/
def readSequence (extended : Bool) : Nat → Nat → Nat → Bool → Regex → List Token → Result
  | 0, _, _, _, _, _ => .error .openGroup
  | fuel + 1, depth, groups, atStart, before, tokens => do
    match tokens with
    | [] => return (before, groups, [])
    | .bar :: _ => return (before, groups, tokens)
    | .closeGroup :: rest =>
      if depth = 0 then
        if extended then
          readRepeated extended fuel depth groups before (.literal (byte ')')) rest
        else throw .closedGroup
      else return (before, groups, tokens)
    | .openGroup :: rest =>
      let number := groups + 1
      let (inner, groups, rest) ← readAlternatives extended fuel (depth + 1) number rest
      match rest with
      | .closeGroup :: rest => readRepeated extended fuel depth groups before (.group number inner) rest
      | _ => throw .openGroup
    | .interval least greatest :: rest =>
      if !atStart then readSequence extended fuel depth groups false before rest
      else if extended then readSequence extended fuel depth groups true before rest
      else if least = 0 && greatest = none then
        readRepeated extended fuel depth groups before (.literal (byte '*')) rest
      else throw .nothingToRepeat
    | .start :: rest =>
      if extended || atStart then
        readSequence extended fuel depth groups true (.sequence before .lineStart) rest
      else readRepeated extended fuel depth groups before (.literal (byte '^')) rest
    | .finish :: rest =>
      if extended || isEdge rest then
        readSequence extended fuel depth groups false (.sequence before .lineEnd) rest
      else readRepeated extended fuel depth groups before (.literal (byte '$')) rest
    | .atom (.again number) :: rest =>
      if number ≤ groups then readRepeated extended fuel depth groups before (.again number) rest
      else throw .missingGroup
    | .atom regex :: rest => readRepeated extended fuel depth groups before regex rest
    | .literal b :: rest => readRepeated extended fuel depth groups before (.literal b) rest

/-- Repetitions of an atom that has been read. -/
def readRepeated (extended : Bool) : Nat → Nat → Nat → Regex → Regex → List Token → Result
  | 0, _, _, _, _, _ => .error .openGroup
  | fuel + 1, depth, groups, before, atom, tokens =>
    match tokens with
    | .interval least greatest :: rest =>
      if (greatest.map fun n ↦ decide (n < least)).getD false then .error .badInterval
      else readRepeated extended fuel depth groups before (.repeated atom least greatest) rest
    | _ => readSequence extended fuel depth groups false (.sequence before atom) tokens

end

/-- The expression in a text. -/
def read (extended : Bool) (text : Bytes) : Except Fault Regex := do
  let tokens ← tokens extended (text.length + 1) text
  let (regex, _, rest) ← readAlternatives extended (8 * tokens.length + 32) 0 0 tokens
  if rest.isEmpty then return regex else throw .closedGroup

/-- The expression that stands for a text itself. -/
def ofText (text : Bytes) : Regex :=
  text.foldr (fun b regex ↦ .sequence (.literal b) regex) .nothing

end Regex

end CodeRepair.Shell
