import CodeRepair.Shell.Script

/-!
# Reading shell scripts

A script is read one complete command line at a time, so that what stands in front of a mistake is
run before the mistake is noticed.  Words that begin or end a part of a script are such only where a
command may begin.  The texts that redirections refer to stand behind the end of the line.  Every step
either consumes a character or goes one level down, so a multiple of the length of the text bounds the
number of steps.
-/

namespace CodeRepair.Shell

/-- A mistake in a script, and the line on which it was noticed. -/
structure SyntaxFault where
  line : Nat
  message : Text
  deriving DecidableEq, Repr

/-- What a redirection begins with. -/
inductive RedirectionHead
  | file (descriptor : Nat) (direction : Direction)
  /-- A text that stands behind the line, from whose lines tabs may be cut. -/
  | document (descriptor : Nat) (cutsTabs : Bool)

/-- A token of a script. -/
inductive Token
  | ending
  | newline
  | operator (mark : Text)
  | redirection (head : RedirectionHead)
  /-- A word, with its text if nothing in it is quoted or expanded. -/
  | word (parts : Word) (plain : Option Text)
  | keyword (name : Text)

namespace Token

/-- What a token is called in complaints. -/
def name : Token → Text
  | ending => "end of file".toList
  | newline => "newline".toList
  | operator mark => '"' :: mark ++ ['"']
  | redirection _ => "redirection".toList
  | word _ _ => "word".toList
  | keyword name => '"' :: name ++ ['"']

/-- Whether a token is a given keyword. -/
def isKeyword (name : String) : Token → Bool
  | keyword other => other == name.toList
  | _ => false

/-- Whether a token is a given operator. -/
def isOperator (mark : String) : Token → Bool
  | operator other => other == mark.toList
  | _ => false

/-- Whether a list of commands ends in front of a token. -/
def endsList : Token → Bool
  | ending => true
  | operator mark => mark == [')'] || mark == [';', ';']
  | keyword name =>
    ["do", "done", "elif", "else", "esac", "fi", "then", "\x7d"].any fun other ↦ other.toList == name
  | _ => false

end Token

/-- The words that begin or end a part of a script. -/
def keywords : List Text :=
  ["!", "case", "do", "done", "elif", "else", "esac", "fi", "for", "if", "in", "then", "until", "while",
    "\x7b", "\x7d"].map String.toList

/-- A text that a redirection waits for. -/
structure Pending where
  number : Nat
  /-- The line behind its last one. -/
  mark : Text
  cutsTabs : Bool
  quoted : Bool

/-- An alias in whose place its value is being read. -/
structure OpenAlias where
  entry : Alias
  /-- The length of the text behind the value. -/
  behind : Nat

/-- What a word may be besides a plain word. -/
inductive Role
  | word
  | keyword
  | shorthand
  /-- A keyword or an alias. -/
  | command
  deriving DecidableEq, Repr

/-- A place in a script. -/
structure Cursor where
  text : Text
  line : Nat := 1
  aliases : List Alias := []
  opened : List OpenAlias := []
  /-- A token that was read but not used. -/
  back : Option Token := none
  pending : List Pending := []
  documents : Documents := []
  /-- The number of the next text that a redirection refers to. -/
  next : Nat := 0

namespace Cursor

/-- The alias of a name, unless its value is just being read. -/
def shorthand? (cursor : Cursor) (name : Text) : Option Alias :=
  (cursor.aliases.find? fun entry ↦ entry.name == name).filter fun _ ↦
    !cursor.opened.any fun opened ↦ opened.entry.name == name && opened.behind ≤ cursor.text.length

/-- The place where the value of an alias begins instead of its name. -/
def openAlias (cursor : Cursor) (entry : Alias) : Cursor :=
  let behind := cursor.text.length
  { cursor with
    text := entry.value ++ cursor.text
    opened := ⟨entry, behind⟩ :: cursor.opened.filter fun opened ↦ opened.behind ≤ behind }

/-- A bound for the number of steps that reading takes. -/
def bound (cursor : Cursor) : Nat :=
  let growth := cursor.aliases.foldl (fun n entry ↦ n + entry.value.length) 1
  8 * cursor.text.length * growth * growth + 64

end Cursor

/-- A computation that reads on from a place in a script. -/
abbrev Reader := StateT Cursor (Except SyntaxFault)

namespace Reader

/-- A mistake is noticed. -/
def fault {α : Type} (message : Text) : Reader α := do
  throw ⟨(← get).line, message⟩

/-- A token stands where none of its kind may stand; perhaps another one is expected. -/
def unexpected {α : Type} (token : Token) (expected : Option Text) : Reader α :=
  fault (token.name ++ " unexpected".toList ++
    match expected with
    | some name => " (expecting ".toList ++ name ++ [')']
    | none => [])

/-- A token is given back. -/
def giveBack (token : Token) : Reader Unit :=
  modify fun cursor ↦ { cursor with back := some token }

/-- A text without the continued line ends at its beginning, and their number. -/
def dropJoins : Nat → Text → Text × Nat
  | count, '\\' :: '\n' :: text => dropJoins (count + 1) text
  | count, text => (text, count)

/-- The next character, which is not consumed; continued line ends in front of it are. -/
def peek : Reader (Option Char) := do
  let cursor ← get
  let (text, count) := dropJoins 0 cursor.text
  set { cursor with text, line := cursor.line + count }
  return text.head?

/-- The next character is consumed. -/
def skip : Reader Unit :=
  modify fun cursor ↦
    match cursor.text with
    | c :: text => { cursor with text, line := cursor.line + if c = '\n' then 1 else 0 }
    | [] => cursor

/-- The next character is consumed if it is a given one. -/
def takes (c : Char) : Reader Bool := do
  if (← peek) = some c then
    skip
    return true
  else return false

/-- The characters of a kind that come next. -/
def takeWhile (isMeant : Char → Bool) : Nat → Reader Text
  | 0 => return []
  | fuel + 1 => do
    match ← peek with
    | some c =>
      if isMeant c then
        skip
        return c :: (← takeWhile isMeant fuel)
      else return []
    | none => return []

end Reader

/-- The characters that end a word. -/
def endsWord (c : Char) : Bool :=
  c == ' ' || c == '\t' || c == '\n' || c == ';' || c == '&' || c == '|' || c == '<' || c == '>' ||
    c == '(' || c == ')'

/-- The characters of the name of a variable. -/
def isNameCharacter (c : Char) : Bool :=
  c.isAlphanum || c == '_'

/-- Whether a text is the name of a variable. -/
def isName (text : Text) : Bool :=
  text.all isNameCharacter && (text.head?.map fun c ↦ !c.isDigit).getD false

/-- The parameters that have a sign for a name. -/
def isSpecial (c : Char) : Bool :=
  c == '#' || c == '?' || c == '$' || c == '!' || c == '-' || c == '*' || c == '@' || c.isDigit

/-- The names of the commands that no function may have. -/
def specialNames : List Text :=
  [".", ":", "break", "continue", "eval", "exec", "exit", "export", "readonly", "return", "set", "shift",
    "times", "trap", "unset", "local"].map String.toList

/-- Where a part of a word stands. -/
inductive Context
  | base
  /-- Between double quotation marks. -/
  | double
  /-- In a text that a redirection refers to. -/
  | document
  /-- In an arithmetic expression, inside so many parentheses. -/
  | arithmetic (depth : Nat)
  /-- Between the braces of a parameter that stands in such a place; none outside of quotes. -/
  | brace (inDouble inDocument : Bool)
  deriving DecidableEq, Repr

/-- Whether what stands in a place is quoted. -/
def Context.quotes : Context → Bool
  | base => false
  | brace inDouble inDocument => inDouble || inDocument
  | _ => true

/-- A word with one more part; neighbouring texts of one kind are put together. -/
def addText (parts : Word) (value : Text) (quoted : Bool) : Word :=
  match parts.getLast? with
  | some (.text before mode) =>
    if mode = quoted then parts.dropLast ++ [.text (before ++ value) quoted]
    else parts ++ [.text value quoted]
  | _ => parts ++ [.text value quoted]

/-- The text of a word in which nothing is quoted or expanded. -/
def plainText? : Word → Option Text
  | [] => some []
  | .text value false :: parts => (plainText? parts).map (value ++ ·)
  | _ => none

/-- The text of a word, without what is expanded in it. -/
def Word.bareText (word : Word) : Text :=
  word.flatMap fun
    | .text value _ => value
    | _ => []

/-- Whether some of a word is quoted. -/
def Word.isQuoted (word : Word) : Bool :=
  word.any fun
    | .text _ quoted => quoted
    | .parameter _ _ quoted => quoted
    | .output _ quoted => quoted
    | .arithmetic _ quoted => quoted

/-- The name in front of an equals sign at the beginning of a word, and the word behind it. -/
def Word.assignment? : Word → Option (Text × Word)
  | .text value false :: parts =>
    let name := value.takeWhile isNameCharacter
    match value.dropWhile isNameCharacter with
    | '=' :: rest =>
      if isName name then
        some (name, if rest.isEmpty then parts else .text rest false :: parts)
      else none
    | _ => none
  | _ => none

/-- The text of a script between backquotes, and the text after it. -/
def splitBackquoted? (inDouble : Bool) (before : Text) : Text → Option (Text × Text)
  | [] => none
  | '\x60' :: rest => some (before.reverse, rest)
  | '\\' :: '\n' :: rest => splitBackquoted? inDouble before rest
  | '\\' :: c :: rest =>
    if c == '\x60' || c == '\\' || c == '$' || (c == '"' && inDouble) then
      splitBackquoted? inDouble (c :: before) rest
    else splitBackquoted? inDouble (c :: '\\' :: before) rest
  | c :: rest => splitBackquoted? inDouble (c :: before) rest

/-- The lines up to one that is a mark, and the text after that; tabs may be cut from the lines. -/
def splitDocument (mark : Text) (cutsTabs : Bool) : Nat → List Text → Text → List Text × Text
  | 0, lines, text => (lines.reverse, text)
  | fuel + 1, lines, text =>
    if text.isEmpty then (lines.reverse, [])
    else
      let line := text.takeWhile (· != '\n')
      let rest := text.dropWhile (· != '\n')
      let line := if cutsTabs then line.dropWhile (· == '\t') else line
      if line = mark then (lines.reverse, rest.drop 1)
      else splitDocument mark cutsTabs fuel
        ((if rest.isEmpty then line else line ++ ['\n']) :: lines) (rest.drop 1)

open Reader

mutual

/-- The parts of a word up to the end of the place where it stands. -/
def readParts : Nat → Context → Word → Reader Word
  | 0, _, _ => fault "nested too deeply".toList
  | fuel + 1, context, parts => do
    let quotes := context.quotes
    match ← peek with
    | none =>
      match context with
      | .base | .document => return parts
      | .double | .brace true _ => fault "Unterminated quoted string".toList
      | .arithmetic _ => fault "Missing '))'".toList
      | .brace false _ => fault "Missing '\x7d'".toList
    | some '\\' =>
      skip
      match (← get).text with
      | [] => return addText parts ['\\'] true
      | c :: _ =>
        skip
        let isEscape := c == '\\' || c == '\x60' || c == '$' ||
          (c == '"' && context != .document) ||
          (c == '\x7d' && match context with
            | .brace _ _ => true
            | _ => false)
        readParts fuel context (addText parts (if quotes && !isEscape then ['\\', c] else [c]) true)
    | some '\x27' =>
      if quotes then
        skip
        readParts fuel context (addText parts ['\x27'] true)
      else
        skip
        let cursor ← get
        let value := cursor.text.takeWhile (· != '\x27')
        let line := cursor.line + value.count '\n'
        set { cursor with text := cursor.text.dropWhile (· != '\x27'), line }
        if (← get).text.isEmpty then fault "Unterminated quoted string".toList
        skip
        readParts fuel context (addText parts value true)
    | some '"' =>
      skip
      match context with
      | .double => return parts
      | .document => readParts fuel context (addText parts ['"'] true)
      | .arithmetic _ => readParts fuel context parts
      | _ =>
        let inner ← readParts fuel .double []
        readParts fuel context (if inner.isEmpty then addText parts [] true else parts ++ inner)
    | some '$' =>
      skip
      match ← readDollar? fuel context with
      | some part => readParts fuel context (parts ++ [part])
      | none => readParts fuel context (addText parts ['$'] quotes)
    | some '\x60' =>
      skip
      let cursor ← get
      match splitBackquoted? (context == .double) [] cursor.text with
      | none => fault "EOF in backquote substitution".toList
      | some (inner, rest) =>
        let lines := (cursor.text.take (cursor.text.length - rest.length)).count '\n'
        set { cursor with text := inner, line := 1, back := none, pending := [], opened := [] }
        let script ← readList fuel 2 none
        modify fun after ↦ { after with
          text := rest
          line := cursor.line + lines
          back := cursor.back
          pending := cursor.pending
          opened := cursor.opened }
        readParts fuel context (parts ++ [.output (script.join.getD .idle) quotes])
    | some c =>
      match context with
      | .base =>
        if endsWord c then return parts
        else
          skip
          readParts fuel context (addText parts [c] false)
      | .brace _ _ =>
        skip
        if c = '\x7d' then return parts else readParts fuel context (addText parts [c] quotes)
      | .arithmetic depth =>
        skip
        if c = '(' then readParts fuel (.arithmetic (depth + 1)) (addText parts [c] true)
        else if c = ')' then
          match depth with
          | depth + 1 => readParts fuel (.arithmetic depth) (addText parts [c] true)
          | 0 =>
            if ← takes ')' then return parts
            else readParts fuel context (addText parts [c] true)
        else readParts fuel context (addText parts [c] true)
      | _ =>
        skip
        readParts fuel context (addText parts [c] true)

/-- What a dollar sign stands for, if it is not for itself. -/
def readDollar? : Nat → Context → Reader (Option Part)
  | 0, _ => fault "nested too deeply".toList
  | fuel + 1, context => do
    let quoted := context.quotes
    match ← peek with
    | some '(' =>
      skip
      if ← takes '(' then
        return some (.arithmetic (← readParts fuel (.arithmetic 0) []) quoted)
      else
        let outer := (← get).back
        modify fun cursor ↦ { cursor with back := none }
        let script ← readList fuel 2 none
        match ← readToken fuel false .command with
        | .operator [')'] => pure ()
        | token => unexpected token (some "\")\"".toList)
        modify fun cursor ↦ { cursor with back := outer }
        return some (.output (script.join.getD .idle) quoted)
    | some '\x7b' =>
      skip
      return some (← readBraced fuel context)
    | some c =>
      if c.isDigit || isSpecial c then
        skip
        return some (.parameter [c] .value quoted)
      else if isNameCharacter c then
        return some (.parameter (← takeWhile isNameCharacter fuel) .value quoted)
      else return none
    | none => return none

/-- A parameter behind its opening brace. -/
def readBraced : Nat → Context → Reader Part
  | 0, _ => fault "nested too deeply".toList
  | fuel + 1, context => do
    let quoted := context.quotes
    let inner : Context := .brace
      (match context with
        | .double => true
        | .arithmetic _ => true
        | .brace inDouble _ => inDouble
        | _ => false)
      (match context with
        | .document => true
        | .brace _ inDocument => inDocument
        | _ => false)
    let malformed : Reader Part := do
      let _ ← readParts fuel inner []
      return .parameter [] .malformed quoted
    match ← peek with
    | none => malformed
    | some '#' =>
      skip
      match ← peek with
      | some c =>
        if isNameCharacter c then
          let name ← takeWhile (if c.isDigit then Char.isDigit else isNameCharacter) fuel
          if ← takes '\x7d' then return .parameter name .length quoted else malformed
        else
          let cursor ← get
          if isSpecial c && (dropJoins 0 (cursor.text.drop 1)).1.head? == some '\x7d' then
            skip
            skip
            return .parameter [c] .length quoted
          else readUse fuel context inner ['#']
      | none => malformed
    | some c =>
      if c.isDigit then readUse fuel context inner (← takeWhile Char.isDigit fuel)
      else if isNameCharacter c then
        readUse fuel context inner (← takeWhile isNameCharacter fuel)
      else if isSpecial c then
        skip
        readUse fuel context inner [c]
      else malformed

/-- What is made of a parameter, behind its name. -/
def readUse : Nat → Context → Context → Text → Reader Part
  | 0, _, _, _ => fault "nested too deeply".toList
  | fuel + 1, context, inner, name => do
    let finish := fun (use : Use) ↦ (Part.parameter name use context.quotes : Part)
    let c := (← peek).getD '\x00'
    if c = '%' || c = '#' then
      skip
      let longest ← takes c
      return finish (.cut ⟨c == '%', longest⟩ (← readParts fuel (.brace false false) []))
    else
      let orEmpty ← takes ':'
      match ← peek with
      | some '\x7d' =>
        skip
        if orEmpty then return finish (.followed (← readParts fuel inner [])) else return finish .value
      | some '-' =>
        skip
        return finish (.default orEmpty (← readParts fuel inner []))
      | some '+' =>
        skip
        return finish (.replace orEmpty (← readParts fuel inner []))
      | some '?' =>
        skip
        return finish (.demand orEmpty (← readParts fuel inner []))
      | some '=' =>
        skip
        return finish (.assign orEmpty (← readParts fuel inner []))
      | _ =>
        let _ ← readParts fuel inner []
        return finish .malformed

/-- The texts that redirections wait for, at the end of a line. -/
def readDocuments : Nat → Reader Unit
  | 0 => fault "nested too deeply".toList
  | fuel + 1 => do
    let cursor ← get
    match cursor.pending with
    | [] => return ()
    | pending :: others =>
      let (lines, rest) := splitDocument pending.mark pending.cutsTabs (cursor.text.length + 1) []
        cursor.text
      let count := (cursor.text.take (cursor.text.length - rest.length)).count '\n'
      let content ←
        if pending.quoted then pure [.text lines.flatten true]
        else
          set { cursor with text := lines.flatten, back := none, pending := [], opened := [] }
          readParts fuel .document []
      modify fun after ↦ { after with
        text := rest
        line := cursor.line + count
        back := cursor.back
        opened := cursor.opened
        pending := others
        documents := (pending.number, content) :: after.documents }
      readDocuments fuel

/-- The next token.  Line ends may be passed over, and words may have a role. -/
def readToken : Nat → Bool → Role → Reader Token
  | 0, _, _ => fault "nested too deeply".toList
  | fuel + 1, passesLines, role => do
    let before ← get
    let token ← match before.back with
      | some token =>
        modify fun cursor ↦ { cursor with back := none }
        pure token
      | none => scanToken fuel
    match token with
    | .newline =>
      if passesLines then
        readDocuments fuel
        readToken fuel passesLines role
      else return token
    | .word _ (some text) =>
      if (role = .command || role = .keyword) && keywords.contains text then return .keyword text
      else
        let after ← get
        let follows := after.opened.any fun opened ↦
          opened.entry.chains && opened.behind ≤ before.text.length && after.text.length < opened.behind
        if role = .command || role = .shorthand || follows then
          match after.shorthand? text with
          | some entry =>
            set (after.openAlias entry)
            readToken fuel passesLines role
          | none => return token
        else return token
    | token => return token

/-- The token at the beginning of the text. -/
def scanToken : Nat → Reader Token
  | 0 => fault "nested too deeply".toList
  | fuel + 1 => do
    let either := fun (c : Char) ↦ (do
      skip
      if ← takes c then return Token.operator [c, c] else return .operator [c] : Reader Token)
    match ← peek with
    | none => return .ending
    | some ' ' | some '\t' =>
      skip
      scanToken fuel
    | some '#' =>
      modify fun cursor ↦ { cursor with text := cursor.text.dropWhile (· != '\n') }
      scanToken fuel
    | some '\n' =>
      skip
      return .newline
    | some '&' => either '&'
    | some '|' => either '|'
    | some ';' => either ';'
    | some '(' =>
      skip
      return .operator ['(']
    | some ')' =>
      skip
      return .operator [')']
    | some _ =>
      let parts ← readParts fuel .base []
      let next ← peek
      let plain := plainText? parts
      match plain with
      | some text =>
        if (next = some '<' || next = some '>') &&
            (text.isEmpty || (text.length = 1 && text.all Char.isDigit)) then
          let digits := text.head?.map fun c ↦ c.toNat - '0'.toNat
          skip
          if next = some '>' then
            let direction ← if ← takes '>' then pure Direction.append
              else if ← takes '&' then pure .duplicate
              else if ← takes '|' then pure .clobber
              else pure .write
            return .redirection (.file (digits.getD 1) direction)
          else if ← takes '<' then
            return .redirection (.document (digits.getD 0) (← takes '-'))
          else
            let direction ← if ← takes '&' then pure Direction.duplicate
              else if ← takes '>' then pure .both
              else pure .read
            return .redirection (.file (digits.getD 0) direction)
        else return .word parts plain
      | none => return .word parts none

/-- A redirection behind its beginning. -/
def readRedirection : Nat → RedirectionHead → Reader Redirection
  | 0, _ => fault "nested too deeply".toList
  | fuel + 1, head => do
    match ← readToken fuel false .word with
    | .word parts _ =>
      match head with
      | .file descriptor direction => return .file descriptor direction parts
      | .document descriptor cutsTabs =>
        let cursor ← get
        let pending : Pending := ⟨cursor.next, Word.bareText parts, cutsTabs, Word.isQuoted parts⟩
        set { cursor with next := cursor.next + 1, pending := cursor.pending ++ [pending] }
        return .document descriptor pending.number
    | token => unexpected token none

/-- The redirections that come next. -/
def readRedirections : Nat → List Redirection → Reader (List Redirection)
  | 0, _ => fault "nested too deeply".toList
  | fuel + 1, redirections => do
    match ← readToken fuel false .command with
    | .redirection head =>
      readRedirections fuel (redirections ++ [← readRedirection fuel head])
    | token =>
      giveBack token
      return redirections

/-- The rest of a simple command, or of the definition of a function. -/
def readSimple : Nat → Nat → List (Text × Word) → List Word → List Redirection → Reader Script
  | 0, _, _, _, _ => fault "nested too deeply".toList
  | fuel + 1, line, assignments, words, redirections => do
    match ← readToken fuel false (if words.isEmpty then .shorthand else .word) with
    | .word parts _ =>
      match if words.isEmpty then Word.assignment? parts else none with
      | some assignment => readSimple fuel line (assignments ++ [assignment]) words redirections
      | none =>
        readSimple fuel line assignments (words ++ [parts]) redirections
    | .redirection head =>
      readSimple fuel line assignments words (redirections ++ [← readRedirection fuel head])
    | token =>
      if token.isOperator "(" && words.length = 1 && assignments.isEmpty && redirections.isEmpty then
        match ← readToken fuel false .word with
        | .operator [')'] => pure ()
        | token => unexpected token (some "\")\"".toList)
        match (words.head?).bind plainText? with
        | some name =>
          if isName name && !specialNames.contains name then
            let line := (← get).line
            return .definition name line (← readCommand fuel true)
          else fault "Bad function name".toList
        | none => fault "Bad function name".toList
      else
        giveBack token
        return .simple line assignments words redirections

/-- A keyword is expected. -/
def expectKeyword : Nat → Bool → Text → Reader Unit
  | 0, _, _ => fault "nested too deeply".toList
  | fuel + 1, passesLines, name => do
    match ← readToken fuel passesLines .command with
    | .keyword other =>
      if other = name then return () else unexpected (.keyword other) (some (Token.keyword name).name)
    | token => unexpected token (some (Token.keyword name).name)

/-- A list of commands inside a command. -/
def readBody : Nat → Reader Script
  | 0 => fault "nested too deeply".toList
  | fuel + 1 => do return ((← readList fuel 0 none).join).getD .idle

/-- The rest of a condition, up to its end. -/
def readChoice : Nat → Reader Script
  | 0 => fault "nested too deeply".toList
  | fuel + 1 => do
    let condition ← readBody fuel
    expectKeyword fuel false "then".toList
    let body ← readBody fuel
    match ← readToken fuel false .command with
    | .keyword ['e', 'l', 'i', 'f'] => return .choice condition body (← readChoice fuel)
    | .keyword ['e', 'l', 's', 'e'] =>
      let otherwise ← readBody fuel
      return .choice condition body otherwise
    | token =>
      giveBack token
      return .choice condition body .idle

/-- The words behind `in`, and the token behind them. -/
def readWords : Nat → List Word → Reader (List Word × Token)
  | 0, _ => fault "nested too deeply".toList
  | fuel + 1, words => do
    match ← readToken fuel false .word with
    | .word parts _ => readWords fuel (words ++ [parts])
    | token => return (words, token)

/-- The patterns of a branch, of which the first one begins with a given token. -/
def readPatterns : Nat → Token → List Word → Reader (List Word)
  | 0, _, _ => fault "nested too deeply".toList
  | fuel + 1, token, patterns => do
    let pattern : Word := match token with
      | .word parts _ => parts
      | .keyword name => [.text name false]
      | _ => []
    match ← readToken fuel false .word with
    | .operator ['|'] => readPatterns fuel (← readToken fuel false .word) (patterns ++ [pattern])
    | .operator [')'] => return patterns ++ [pattern]
    | token => unexpected token (some "\")\"".toList)

/-- The branches of a selection, of which the first one begins with a given token. -/
def readBranches : Nat → Token → List (List Word × Script) → Reader (List (List Word × Script))
  | 0, _, _ => fault "nested too deeply".toList
  | fuel + 1, token, branches => do
    if token.isKeyword "esac" then return branches
    else
      let token ← if token.isOperator "(" then readToken fuel false .word else pure token
      let patterns ← readPatterns fuel token []
      let body := ((← readList fuel 2 none).join).getD .idle
      let branches := branches ++ [(patterns, body)]
      match ← readToken fuel true .keyword with
      | .operator [';', ';'] => readBranches fuel (← readToken fuel true .keyword) branches
      | token =>
        if token.isKeyword "esac" then return branches
        else unexpected token (some "\";;\"".toList)

/-- A command. -/
def readCommand : Nat → Bool → Reader Script
  | 0, _ => fault "nested too deeply".toList
  | fuel + 1, passesLines => do
    let line := (← get).line
    let token ← readToken fuel passesLines .command
    let wrap := fun (script : Script) ↦ (do
      let redirections ← readRedirections fuel []
      return if redirections.isEmpty then script else .redirected line script redirections :
        Reader Script)
    match token with
    | .word _ _ | .redirection _ =>
      giveBack token
      let line := (← get).line
      readSimple fuel line [] [] []
    | .operator ['('] =>
      let body ← readBody fuel
      match ← readToken fuel false .command with
      | .operator [')'] => pure ()
      | token => unexpected token (some "\")\"".toList)
      return .subshell line body (← readRedirections fuel [])
    | .keyword name =>
      match String.ofList name with
      | "\x7b" =>
        let body ← readBody fuel
        expectKeyword fuel false "\x7d".toList
        wrap body
      | "if" =>
        let script ← readChoice fuel
        expectKeyword fuel false "fi".toList
        wrap script
      | "while" =>
        let condition ← readBody fuel
        expectKeyword fuel false "do".toList
        let body ← readBody fuel
        expectKeyword fuel false "done".toList
        wrap (.loop condition body)
      | "until" =>
        let condition ← readBody fuel
        expectKeyword fuel false "do".toList
        let body ← readBody fuel
        expectKeyword fuel false "done".toList
        wrap (.loop (.negated condition) body)
      | "for" =>
        let name ← match ← readToken fuel false .word with
          | .word _ (some name) =>
            if isName name then pure name else fault "Bad for loop variable".toList
          | _ => fault "Bad for loop variable".toList
        let token ← readToken fuel true .command
        let words ←
          if token.isKeyword "in" then do
            let (words, token) ← readWords fuel []
            if token.isOperator ";" then pure ()
            else match token with
              | .newline => readDocuments fuel
              | token => unexpected token none
            pure words
          else do
            if !token.isOperator ";" then giveBack token
            pure [[.parameter ['@'] .value true]]
        expectKeyword fuel true "do".toList
        let body ← readBody fuel
        expectKeyword fuel false "done".toList
        wrap (.iteration line name words body)
      | "case" =>
        let word ← match ← readToken fuel false .word with
          | .word parts _ => pure parts
          | token => unexpected token (some "word".toList)
        expectKeyword fuel true "in".toList
        let branches ← readBranches fuel (← readToken fuel true .keyword) []
        wrap (.selection line word branches)
      | _ => unexpected token none
    | _ => unexpected token none

/-- The commands of a pipeline behind its first one. -/
def readElements : Nat → List Script → Reader (List Script)
  | 0, _ => fault "nested too deeply".toList
  | fuel + 1, elements => do
    match ← readToken fuel false .word with
    | .operator ['|'] => readElements fuel (elements ++ [← readCommand fuel true])
    | token =>
      giveBack token
      return elements

/-- A pipeline. -/
def readPipeline : Nat → Bool → Reader Script
  | 0, _ => fault "nested too deeply".toList
  | fuel + 1, passesLines => do
    let token ← readToken fuel passesLines .command
    let negates := token.isKeyword "!"
    if !negates then giveBack token
    let first ← readCommand fuel false
    let script ← match ← readElements fuel [first] with
      | [single] => pure single
      | elements => pure (.pipeline elements)
    return if negates then .negated script else script

/-- Pipelines joined to a script that stands before them. -/
def readChain : Nat → Script → Reader Script
  | 0, _ => fault "nested too deeply".toList
  | fuel + 1, before => do
    match ← readToken fuel false .word with
    | .operator ['&', '&'] => readChain fuel (.both before (← readPipeline fuel true))
    | .operator ['|', '|'] => readChain fuel (.either before (← readPipeline fuel true))
    | token =>
      giveBack token
      return before

/-- A list of commands: in mode one a complete command line, in mode zero a list that is not empty and
in mode two any list, both up to a token that ends them.  Nothing at all is told from an empty line. -/
def readList : Nat → Nat → Option Script → Reader (Option (Option Script))
  | 0, _, _ => fault "nested too deeply".toList
  | fuel + 1, mode, before => do
    let token ← readToken fuel (mode != 1) .command
    match token with
    | .newline =>
      readDocuments fuel
      return some before
    | .ending =>
      readDocuments fuel
      giveBack token
      return if before.isNone && mode = 1 then none else some before
    | _ =>
      giveBack token
      if (mode = 2 || (mode = 0 && before.isSome)) && token.endsList then return some before
      else
        let script ← readChain fuel (← readPipeline fuel false)
        let token ← readToken fuel false .word
        let script := if token.isOperator "&" then .background script else script
        let joined : Script := match before with
          | some before => Script.sequence before script
          | none => script
        match token with
        | .ending =>
          readDocuments fuel
          giveBack token
          return some (some joined)
        | .newline =>
          giveBack token
          readList fuel mode (some joined)
        | _ =>
          if token.isOperator "&" || token.isOperator ";" then readList fuel mode (some joined)
          else if mode = 1 then unexpected token none
          else
            giveBack token
            return some (some joined)

end

/-- The next complete command line, and the place behind it; `none` at the end of the script. -/
def Cursor.readLine (cursor : Cursor) : Except SyntaxFault (Option (Option Script) × Cursor) :=
  (readList cursor.bound 1 none).run cursor

/-- Whether nothing but an end follows. -/
def Cursor.atEnd (cursor : Cursor) : Bool :=
  match cursor.back with
  | some .ending => true
  | some _ => false
  | none => cursor.text.isEmpty

end CodeRepair.Shell
