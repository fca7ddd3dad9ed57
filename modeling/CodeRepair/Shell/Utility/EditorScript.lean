import CodeRepair.Shell.Regex
import CodeRepair.Shell.Utility.Basic

/-!
# Scripts of the stream editor

A script of `sed` is a list of commands, each with up to two addresses that say for which lines it is
meant.  A block knows where it ends.  The texts of expressions and replacements are freed from the
escapes that have nothing to do with matching.
-/

namespace CodeRepair.Shell.Editor

/-- An expression with what was said about it; nothing is the one that was used last. -/
structure Pattern where
  regex : Option Regex
  ignoresCase : Bool := false
  hasLines : Bool := false

/-- Which lines are meant. -/
inductive Address
  | line (number : Nat)
  /-- Every so many lines from a first one on. -/
  | every (first step : Nat)
  | last
  | pattern (pattern : Pattern)
  /-- So many lines behind the first one, as the second address. -/
  | count (lines : Nat)
  /-- Up to a multiple of a number, as the second address. -/
  | multiple (factor : Nat)

/-- A part of a replacement. -/
inductive ReplacementPart
  | text (content : Bytes)
  | group (number : Nat)
  /-- A change of the case of what follows: one of `U`, `L`, `u`, `l` and `E`. -/
  | case (letter : UInt8)

/-- What is done with the matches of a pattern. -/
structure Substitution where
  pattern : Pattern
  replacement : List ReplacementPart
  isGlobal : Bool := false
  /-- From which match on. -/
  first : Nat := 1
  prints : Bool := false
  file : Option Bytes := none

/-- What a command does. -/
inductive Action
  /-- The commands up to a place belong together. -/
  | block (ends : Nat)
  | blockEnd
  | label (name : Bytes)
  /-- Simple commands, by their letters. -/
  | simple (letter : UInt8)
  | append (text : Bytes)
  | insert (text : Bytes)
  | change (text : Bytes)
  | branch (name : Bytes)
  | branchIf (changed : Bool) (name : Bytes)
  | show (width : Option Nat)
  | quit (isQuiet : Bool) (status : Nat)
  | readFile (path : Bytes)
  | readLine (path : Bytes)
  | writeFile (path : Bytes)
  | writeLine (path : Bytes)
  | substitute (substitution : Substitution)
  | exchange (pairs : List (UInt8 × UInt8))

/-- A command with its addresses. -/
structure Command where
  first : Option Address := none
  second : Option Address := none
  isNegated : Bool := false
  action : Action

/-- A mistake in a script: what is wrong and how much text is left behind it; nothing stands for the
place of a mistake in the script as a whole. -/
structure Fault where
  message : Bytes
  left : Option Nat

/-- A computation that reads a script. -/
abbrev Reader := StateT Bytes (Except Fault)

namespace Reader

/-- A mistake is noticed. -/
def fault {α : Type} (message : String) : Reader α := do
  throw ⟨bytes message, some (← get).length⟩

/-- The next byte is consumed. -/
def next : Reader (Option UInt8) := do
  match ← get with
  | [] => return none
  | b :: rest =>
    set rest
    return some b

/-- Bytes of a kind are consumed. -/
def takeWhile (isMeant : UInt8 → Bool) : Reader Bytes := do
  let text ← get
  set (text.dropWhile isMeant)
  return text.takeWhile isMeant

/-- White space is consumed. -/
def skipWhite : Reader Unit := do
  let _ ← takeWhile isWhite

/-- White space within a line is consumed. -/
def skipBlanks : Reader Unit := do
  let _ ← takeWhile fun b ↦ isWhite b && b != lineEnd

/-- A number is consumed. -/
def nat : Reader Nat := do
  return number 10 (← takeWhile isDecimal)

end Reader

/-! ## Texts between delimiters -/

/-- The text up to a delimiter, and what stands behind that.  In an expression a delimiter between
brackets does not count, and the escape of a line feed becomes one. -/
def delimited (delimiter : UInt8) (inRegex : Bool) : Nat → Bytes → Bytes → Option (Bytes × Bytes)
  | 0, _, _ => none
  | _, _, [] => none
  | fuel + 1, before, b :: rest =>
    if b = delimiter then some (before.reverse, rest)
    else if b = lineEnd && inRegex then none
    else if b = byte '\\' then
      match rest with
      | [] => none
      | c :: after =>
        if c = delimiter && !(!inRegex && c = byte '&') then
          delimited delimiter inRegex fuel (c :: before) after
        else if c = byte 'n' && inRegex then delimited delimiter inRegex fuel (lineEnd :: before) after
        else if c = lineEnd && inRegex then delimited delimiter inRegex fuel (c :: before) after
        else delimited delimiter inRegex fuel (c :: byte '\\' :: before) after
    else if b = byte '[' && inRegex then
      let negation := if rest.head? = some (byte '^') then 1 else 0
      match readClassItems? (rest.length + 1) [] ((rest.drop negation).map fun b ↦ (b, false)) with
      | some (_, after) =>
        let length := rest.length - after.length
        let inner := rest.take length
        if inner.contains lineEnd then delimited delimiter inRegex fuel (b :: before) rest
        else delimited delimiter inRegex fuel (inner.reverse ++ b :: before) (rest.drop length)
      | none => delimited delimiter inRegex fuel (b :: before) rest
    else delimited delimiter inRegex fuel (b :: before) rest

/-- The byte of an escape by a letter or by a number, and the text behind it. -/
def escapedByte? (text : Bytes) : Option (UInt8 × Bytes) :=
  match text with
  | [] => none
  | letter :: rest =>
    let numbered := fun (base count : Nat) ↦
      let digits := (rest.take count).takeWhile fun b ↦ digitOf b < base
      if digits.isEmpty then none
      else some (UInt8.ofNat (number base digits), rest.drop digits.length)
    match Char.ofNat letter.toNat with
    | 'a' => some (0x07, rest)
    | 'f' => some (0x0C, rest)
    | 'r' => some (0x0D, rest)
    | 't' => some (0x09, rest)
    | 'v' => some (0x0B, rest)
    | 'x' => numbered 16 2
    | 'd' => numbered 10 3
    | 'o' => numbered 8 3
    | 'c' =>
      match rest with
      | c :: rest => some (toCapital c ^^^ 0x40, rest)
      | [] => none
    | _ => none

/-- Whether a byte has a meaning in expressions. -/
def isOperator (b : UInt8) : Bool :=
  (bytes "$*.[\\]^+?()\x7b|\x7d").contains b

/-- A text with its escapes of bytes replaced; those with a meaning stay escaped in expressions. -/
def freed (inRegex : Bool) : Nat → Bytes → Bytes
  | 0, text => text
  | _, [] => []
  | fuel + 1, b :: rest =>
    if b = byte '\\' then
      match escapedByte? rest with
      | some (value, after) =>
        (if inRegex && isOperator value || value = byte '\\' || (!inRegex && value = byte '&') then
          [byte '\\', value] else [value]) ++ freed inRegex fuel after
      | none =>
        match rest with
        | c :: after => b :: c :: freed inRegex fuel after
        | [] => [b]
    else b :: freed inRegex fuel rest

/-- The expression in a text. -/
def readRegex (extended : Bool) (text : Bytes) : Reader (Option Regex) := do
  if text.isEmpty then return none
  match Regex.read extended (freed true (text.length + 1) text) with
  | .ok regex => return some regex
  | .error fault => Reader.fault fault.message

/-- The parts of a replacement. -/
def replacementOf : Nat → Bytes → List ReplacementPart
  | 0, _ => []
  | _, [] => []
  | fuel + 1, b :: rest =>
    if b = byte '&' then .group 0 :: replacementOf fuel rest
    else if b = byte '\\' then
      match rest with
      | [] => [.text [b]]
      | c :: after =>
        if isDecimal c then .group (digitOf c) :: replacementOf fuel after
        else if (bytes "ULulE").contains c then .case c :: replacementOf fuel after
        else if c = byte 'n' then .text [lineEnd] :: replacementOf fuel after
        else .text [c] :: replacementOf fuel after
    else .text [b] :: replacementOf fuel rest

/-! ## Addresses -/

/-- The flags behind an expression. -/
def readPatternFlags (pattern : Pattern) : Reader Pattern := do
  let flags ← Reader.takeWhile fun b ↦ b == byte 'I' || b == byte 'M'
  return { pattern with
    ignoresCase := flags.contains (byte 'I'), hasLines := flags.contains (byte 'M') }

/-- An address, if there is one. -/
def readAddress (extended isSecond : Bool) : Reader (Option Address) := do
  match (← get).head? with
  | none => return none
  | some b =>
    if isDecimal b then
      let n ← Reader.nat
      Reader.skipBlanks
      if (← get).head? = some (byte '~') && !isSecond then
        let _ ← Reader.next
        Reader.skipBlanks
        return some (.every n (← Reader.nat))
      else return some (.line n)
    else if b = byte '$' then
      let _ ← Reader.next
      return some .last
    else if isSecond && (b = byte '+' || b = byte '~') then
      let _ ← Reader.next
      let n ← Reader.nat
      return some (if b = byte '+' then .count n else .multiple n)
    else if b = byte '/' || b = byte '\\' then
      let _ ← Reader.next
      let delimiter ← if b = byte '/' then pure b else do
        match ← Reader.next with
        | some delimiter => pure delimiter
        | none => Reader.fault "unexpected \x60,\x27"
      let text ← get
      match delimited delimiter true (text.length + 1) [] text with
      | none =>
        set ([] : Bytes)
        Reader.fault "unterminated address regex"
      | some (inner, rest) =>
        set rest
        let regex ← readRegex extended inner
        return some (.pattern (← readPatternFlags { regex }))
    else return none

/-! ## Commands -/

/-- The text of a command that adds one: it reaches to the end of the line, and over line ends behind
backslashes. -/
def addedText : Nat → Bytes → Bytes × Bytes
  | 0, text => (text, [])
  | _, [] => ([], [])
  | fuel + 1, b :: rest =>
    if b = lineEnd then ([], rest)
    else if b = byte '\\' then
      match escapedByte? rest, rest with
      | some (value, after), _ =>
        let (text, left) := addedText fuel after
        (value :: text, left)
      | none, c :: after =>
        let (text, left) := addedText fuel after
        ((if c = byte 'n' then lineEnd else c) :: text, left)
      | none, [] => ([], [])
    else
      let (text, left) := addedText fuel rest
      (b :: text, left)

/-- The text behind a command that adds one. -/
def readAdded : Reader Bytes := do
  Reader.skipBlanks
  let text ← get
  match text with
  | [] => Reader.fault "expected \\ after \x60a\x27, \x60c\x27 or \x60i\x27"
  | b :: rest =>
    let text ←
      if b = byte '\\' then do
        let inner := rest.dropWhile fun b ↦ isWhite b && b != lineEnd
        match inner with
        | c :: after =>
          if c = lineEnd then pure after else pure rest
        | [] => pure []
      else pure text
    let (added, left) := addedText (text.length + 1) text
    set left
    return if text.isEmpty then [] else added ++ [lineEnd]

/-- Nothing but the end of the command follows. -/
def readEnd : Reader Unit := do
  Reader.skipBlanks
  match (← get).head? with
  | none => return ()
  | some b =>
    if b = lineEnd || b = byte ';' then
      let _ ← Reader.next
    else if b = byte '\x7d' || b = byte '#' then return ()
    else
      let _ ← Reader.next
      Reader.fault "extra characters after command"

/-- The name of a file, up to the end of the line. -/
def readFileName : Reader Bytes := do
  Reader.skipBlanks
  let name ← Reader.takeWhile (· != lineEnd)
  if name.isEmpty then Reader.fault "missing filename in r/R/w/W commands"
  let _ ← Reader.next
  return name

/-- A label, up to white space or a semicolon. -/
def readLabel : Reader Bytes := do
  Reader.skipBlanks
  let name ← Reader.takeWhile fun b ↦ !isWhite b && b != byte ';'
  return name

/-- The flags of a substitution. -/
def readFlags : Nat → Substitution → Bool → Reader Substitution
  | 0, substitution, _ => return substitution
  | fuel + 1, substitution, numbered => do
    match (← get).head? with
    | none => return substitution
    | some b =>
      let is := fun (c : Char) ↦ b == byte c
      if is 'g' then
        let _ ← Reader.next
        if substitution.isGlobal then
          Reader.fault "multiple \x60g\x27 options to \x60s\x27 command"
        readFlags fuel { substitution with isGlobal := true } numbered
      else if is 'p' then
        let _ ← Reader.next
        if substitution.prints then
          Reader.fault "multiple \x60p\x27 options to \x60s\x27 command"
        readFlags fuel { substitution with prints := true } numbered
      else if is 'i' || is 'I' then
        let _ ← Reader.next
        readFlags fuel
          { substitution with pattern := { substitution.pattern with ignoresCase := true } } numbered
      else if is 'm' || is 'M' then
        let _ ← Reader.next
        readFlags fuel
          { substitution with pattern := { substitution.pattern with hasLines := true } } numbered
      else if isDecimal b then
        let n ← Reader.nat
        if numbered then Reader.fault "multiple number options to \x60s\x27 command"
        if n = 0 then Reader.fault "number option to \x60s\x27 command may not be zero"
        readFlags fuel { substitution with first := n } true
      else if is 'w' then
        let _ ← Reader.next
        return { substitution with file := some (← readFileName) }
      else if is '\x7d' || is '#' then return substitution
      else if is ';' || b = lineEnd then
        let _ ← Reader.next
        return substitution
      else if isWhite b then
        let _ ← Reader.next
        readFlags fuel substitution numbered
      else
        let _ ← Reader.next
        Reader.fault "unknown option to \x60s\x27"

/-- How many groups an expression has. -/
def groupCount (extended : Bool) (text : Bytes) : Nat :=
  match text with
  | a :: b :: rest =>
    if a = byte '\\' then
      (if !extended && b = byte '(' then 1 else 0) + groupCount extended rest
    else (if extended && a = byte '(' then 1 else 0) + groupCount extended (b :: rest)
  | [a] => if extended && a = byte '(' then 1 else 0
  | [] => 0

/-- A substitution behind its letter. -/
def readSubstitution (extended : Bool) : Reader Substitution := do
  let unterminated := fun (_ : Unit) ↦ (do
    set ([] : Bytes)
    Reader.fault "unterminated \x60s\x27 command" : Reader Substitution)
  match ← Reader.next with
  | none => unterminated ()
  | some delimiter =>
    let text ← get
    match delimited delimiter true (text.length + 1) [] text with
    | none => unterminated ()
    | some (inner, rest) =>
      match delimited delimiter false (rest.length + 1) [] rest with
      | none => unterminated ()
      | some (replacement, rest) =>
        set rest
        let parts := replacementOf (replacement.length + 1)
          (freed false (replacement.length + 1) replacement)
        let substitution ← readFlags (rest.length + 1) { pattern := { regex := none }, replacement := parts }
          false
        let regex ← readRegex extended inner
        let greatest := parts.foldl (fun n part ↦
          match part with
          | .group m => max n m
          | _ => n) 0
        if regex.isSome && groupCount extended inner < greatest then
          throw ⟨bytes "invalid reference \\" ++ ofNatural greatest ++
            bytes " on \x60s\x27 command\x27s RHS", some (← get).length⟩
        return { substitution with pattern := { substitution.pattern with regex } }

/-- A list of characters with escapes of the delimiter, the backslash and the line feed. -/
def unescapedList (delimiter : UInt8) : Nat → Bytes → Bytes
  | 0, text => text
  | _, [] => []
  | fuel + 1, b :: rest =>
    if b = byte '\\' then
      match escapedByte? rest, rest with
      | some (value, after), _ => value :: unescapedList delimiter fuel after
      | none, c :: after =>
        if c = byte '\\' || c = delimiter then c :: unescapedList delimiter fuel after
        else if c = byte 'n' then lineEnd :: unescapedList delimiter fuel after
        else b :: c :: unescapedList delimiter fuel after
      | none, [] => [b]
    else b :: unescapedList delimiter fuel rest

/-- An exchange of characters behind its letter. -/
def readExchange : Reader (List (UInt8 × UInt8)) := do
  let unterminated := fun (_ : Unit) ↦ (do
    set ([] : Bytes)
    Reader.fault "unterminated \x60y\x27 command" : Reader (List (UInt8 × UInt8)))
  match ← Reader.next with
  | none => unterminated ()
  | some delimiter =>
    let text ← get
    match delimited delimiter false (text.length + 1) [] text with
    | none => unterminated ()
    | some (first, rest) =>
      match delimited delimiter false (rest.length + 1) [] rest with
      | none => unterminated ()
      | some (second, rest) =>
        set rest
        let old := unescapedList delimiter (first.length + 1) first
        let new := unescapedList delimiter (second.length + 1) second
        if old.length != new.length then
          Reader.fault "strings for \x60y\x27 command are different lengths"
        readEnd
        return old.zip new

/-- A command behind its addresses, and whether it opens a block. -/
def readAction (extended : Bool) (first second : Option Address) : Reader Action := do
  match ← Reader.next with
  | none => Reader.fault "missing command"
  | some b =>
    let single : Reader Unit :=
      if second.isSome then Reader.fault "command only uses one address" else pure ()
    match Char.ofNat b.toNat with
    | '#' =>
      if first.isSome then Reader.fault "comments don\x27t accept any addresses"
      let _ ← Reader.takeWhile (· != lineEnd)
      return .label []
    | ':' =>
      if first.isSome then Reader.fault ": doesn\x27t want any addresses"
      let name ← readLabel
      if name.isEmpty then Reader.fault "\":\" lacks a label"
      return .label name
    | '\x7b' => return .block 0
    | '\x7d' =>
      if first.isSome then Reader.fault "\x7d doesn\x27t want any addresses"
      readEnd
      return .blockEnd
    | 'a' => return .append (← readAdded)
    | 'i' => return .insert (← readAdded)
    | 'c' => return .change (← readAdded)
    | 'b' | 't' | 'T' =>
      let name ← readLabel
      readEnd
      return if b = byte 'b' then .branch name else .branchIf (b == byte 't') name
    | 'q' | 'Q' =>
      single
      Reader.skipBlanks
      let status ← Reader.nat
      readEnd
      return .quit (b == byte 'Q') (status % 256)
    | 'l' | 'L' =>
      Reader.skipBlanks
      let digits ← Reader.takeWhile isDecimal
      readEnd
      return .show (if digits.isEmpty then none else some (number 10 digits))
    | 'r' => return .readFile (← readFileName)
    | 'R' => return .readLine (← readFileName)
    | 'w' => return .writeFile (← readFileName)
    | 'W' => return .writeLine (← readFileName)
    | 's' => return .substitute (← readSubstitution extended)
    | 'y' => return .exchange (← readExchange)
    | _ =>
      if (bytes "=dDgGhHnNpPxzF").contains b then
        readEnd
        return .simple b
      else
        throw ⟨bytes "unknown command: \x60" ++ [b] ++ bytes "\x27", some (← get).length⟩

/-- Whether a block ends. -/
def Action.isBlockEnd : Action → Bool
  | blockEnd => true
  | _ => false

/-- How many blocks are open behind commands. -/
def openBlocks (commands : List Command) : Int :=
  commands.foldl (fun depth command ↦
    match command.action with
    | .block _ => depth + 1
    | .blockEnd => depth - 1
    | _ => depth) 0

/-- The commands of a script, in the opposite order. -/
def readCommands (extended : Bool) : Nat → List Command → Reader (List Command)
  | 0, commands => return commands
  | fuel + 1, commands => do
    let _ ← Reader.takeWhile fun b ↦ isWhite b || b == byte ';'
    if (← get).isEmpty then return commands
    else
      if (← get).head? = some (byte ',') then
        let _ ← Reader.next
        Reader.fault "unknown command: \x60,\x27"
      let first ← readAddress extended false
      Reader.skipBlanks
      let second ← if first.isSome && (← get).head? = some (byte ',') then do
          let _ ← Reader.next
          Reader.skipBlanks
          match ← readAddress extended true with
          | some address => pure (some address)
          | none => Reader.fault "unexpected \x60,\x27"
        else pure none
      match first, second with
      | some (.line 0), some (.pattern _) => pure ()
      | some (.line 0), _ => Reader.fault "invalid usage of line address 0"
      | _, _ => pure ()
      Reader.skipBlanks
      let isNegated := (← get).head? = some (byte '!')
      if isNegated then
        let _ ← Reader.takeWhile fun b ↦ b == byte '!' || isWhite b
      let action ← readAction extended first second
      if action.isBlockEnd && openBlocks commands ≤ 0 then
        throw ⟨bytes "unexpected \x60\x7d\x27", some (← get).length⟩
      readCommands extended fuel (⟨first, second, isNegated, action⟩ :: commands)

/-- The commands with the ends of the blocks filled in: for each end the last open block is found. -/
def closeBlocks (commands : Array Command) : Option (Array Command) :=
  let step := fun (state : Array Command × List Nat) (n : Nat) ↦
    match (commands[n]?).map Command.action with
    | some (.block _) => (state.1, n :: state.2)
    | some .blockEnd =>
      match state.2 with
      | opened :: others =>
        (state.1.modify opened fun command ↦ { command with action := .block n }, others)
      | [] => state
    | _ => state
  let (commands, opened) := (List.range commands.size).foldl step (commands, [])
  if opened.isEmpty then some commands else none

/-- The label that a command goes to, if it goes to one. -/
def Action.target? : Action → Option Bytes
  | branch name => if name.isEmpty then none else some name
  | branchIf _ name => if name.isEmpty then none else some name
  | _ => none

/-- The place of a label. -/
def labelPlace? (commands : Array Command) (name : Bytes) : Option Nat :=
  commands.findIdx? fun command ↦
    match command.action with
    | .label other => other == name && !name.isEmpty
    | _ => false

/-- The commands in pieces of a script, or the complaint about them and its status. -/
def readScript (extended : Bool) (pieces : List Bytes) : Except (Nat × Bytes) (Array Command) :=
  let text := List.intercalate [lineEnd] pieces
  match (readCommands extended (text.length + 2) []).run text with
  | .error fault =>
    let position := text.length - fault.left.getD 0
    let (number, offset) := (pieces.foldl (fun (state : Nat × Nat × Bool) piece ↦
      let (number, offset, isFound) := state
      if isFound || offset ≤ piece.length || number = pieces.length then (number, offset, true)
      else (number + 1, offset - piece.length - 1, false)) (1, position, false)) |> fun (n, o, _) ↦ (n, o)
    .error (1, bytes "-e expression #" ++ ofNatural number ++ bytes ", char " ++ ofNatural offset ++
      bytes ": " ++ fault.message)
  | .ok (commands, _) =>
    match closeBlocks commands.reverse.toArray with
    | none => .error (1, bytes "-e expression #1, char 0: unmatched \x60\x7b\x27")
    | some commands =>
      match (commands.toList.filterMap fun command ↦ command.action.target?).find? fun name ↦
          (labelPlace? commands name).isNone with
      | some name => .error (1, bytes "can\x27t find label for jump to \x60" ++ name ++ bytes "\x27")
      | none => .ok commands

end CodeRepair.Shell.Editor
