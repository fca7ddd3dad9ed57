import CodeRepair.Shell.Utility.EditorScript
import CodeRepair.Shell.Utility.Stream

/-!
# The stream editor

`sed` runs its commands on one line after the other.  What a command works on is the pattern space; the
hold space keeps a text from one line to the next.  What is to be appended waits until the next line is
read.  A range of lines is active from the line that its first address means until its end has been
seen.
-/

namespace CodeRepair.Shell

namespace Editor

/-- A line of input, and whether a line feed ends it. -/
structure Line where
  text : Bytes
  isWhole : Bool

/-- Something that is written behind the current line. -/
inductive Appended
  | text (content : Bytes)
  | file (path : Bytes)
  | line (path : Bytes)

/-- Where output goes: to the output or to a file. -/
abbrev Target := Option Bytes

/-- What is the same for all lines. -/
structure Setting where
  commands : Array Command
  isQuiet : Bool
  /-- The byte that ends lines. -/
  ender : UInt8
  width : Nat
  files : FileSystem

/-- The state of an editing. -/
structure Session where
  pattern : Bytes := []
  isWhole : Bool := true
  hold : Bytes := []
  number : Nat := 0
  /-- The lines that have not been read. -/
  rest : List Line
  name : Bytes := []
  appended : List Appended := []
  /-- The commands whose ranges are active, with the lines that end them if these are known. -/
  active : List (Nat × Option Nat) := []
  hasChanged : Bool := false
  lastPattern : Option Pattern := none
  /-- What is left of the files that are read line by line. -/
  readers : List (Bytes × List Line) := []
  /-- What was written where, the last part first. -/
  written : List (Target × Bytes) := []
  /-- Where a line feed is still missing. -/
  unfinished : List Target := []
  fault : Option Bytes := none

/-- How the commands for a line come to an end. -/
inductive Outcome
  | done
  | deleted
  /-- The commands start again without a new line. -/
  | again
  | quit (isQuiet : Bool) (status : Nat)
  | endless

namespace Session

/-- A line is written, with its end if it has one. -/
def write (session : Session) (target : Target) (text : Bytes) (ender : Bytes) : Session :=
  let missing := if session.unfinished.contains target then [lineEnd] else []
  { session with
    written := (target, missing ++ text ++ ender) :: session.written
    unfinished := (session.unfinished.filter (· != target)) ++ if ender.isEmpty then [target] else [] }

/-- Text is written as it is. -/
def writeText (session : Session) (target : Target) (text : Bytes) : Session :=
  if text.isEmpty then session
  else
    let missing := if session.unfinished.contains target then [lineEnd] else []
    { session with
      written := (target, missing ++ text) :: session.written
      unfinished := (session.unfinished.filter (· != target)) ++
        if text.getLast? = some lineEnd then [] else [target] }

/-- The pattern space is written. -/
def print (setting : Setting) (session : Session) : Session :=
  session.write none session.pattern (if session.isWhole then [setting.ender] else [])

/-- The lines of a file. -/
def linesIn (setting : Setting) (path : Bytes) : List Line :=
  match setting.files.read (argument path) with
  | .ok content => (linesOf content).map fun line ↦ ⟨chomp line, line.getLast? = some lineEnd⟩
  | .error _ => []

/-- What waits to be appended is written. -/
def flush (setting : Setting) (session : Session) : Session :=
  let step := fun (session : Session) (appended : Appended) ↦
    match appended with
    | .text content => session.writeText none content
    | .file path =>
      match setting.files.read (argument path) with
      | .ok content => session.writeText none content
      | .error _ => session
    | .line path =>
      let left := ((session.readers.find? fun entry ↦ entry.1 == path).map Prod.snd).getD
        (linesIn setting path)
      let session := { session with
        readers := (path, left.drop 1) :: session.readers.filter fun entry ↦ entry.1 != path }
      match left.head? with
      | some line => session.write none line.text (if line.isWhole then [setting.ender] else [])
      | none => session
  session.appended.foldl step { session with appended := [] }

/-- The next line is read into the pattern space, or behind it. -/
def advance (setting : Setting) (session : Session) (joins : Bool) : Option Session :=
  match session.rest with
  | [] => none
  | line :: rest =>
    let session := session.flush setting
    some { session with
      pattern := if joins then session.pattern ++ setting.ender :: line.text else line.text
      isWhole := line.isWhole
      number := session.number + 1
      rest }

/-- The pattern that is meant; it is the last one from now on. -/
def usePattern (session : Session) (pattern : Pattern) : Option (Regex × Regex.Mode) × Session :=
  let pattern := if pattern.regex.isSome then some pattern else session.lastPattern
  match pattern.bind Pattern.regex, pattern with
  | some regex, some pattern =>
    (some (regex, { regex.modeFor pattern.ignoresCase with hasLines := pattern.hasLines }),
      { session with lastPattern := some pattern })
  | _, _ => (none, { session with fault := some (bytes "no previous regular expression") })

/-- Whether an address means the current line. -/
def isMeant (session : Session) : Address → Bool × Session
  | .line n => (n == session.number, session)
  | .every first step =>
    (if step = 0 then session.number == first
      else first ≤ session.number && (session.number - first) % step == 0, session)
  | .last => (session.rest.isEmpty, session)
  | .pattern pattern =>
    match session.usePattern pattern with
    | (some (regex, mode), session) =>
      ((regex.findFrom mode none 0 session.pattern).isSome, session)
    | (none, session) => (false, session)
  | .count _ | .multiple _ => (false, session)

/-- The line that ends a range which begins now, or nothing if only the current line is in it; the
inner option is empty if the end is not known yet. -/
def rangeEnd (session : Session) : Address → Option (Option Nat)
  | .line n => if n ≤ session.number then none else some (some n)
  | .count n => if n = 0 then none else some (some (session.number + n))
  | .multiple n =>
    if n = 0 || session.number % n = 0 then none
    else some (some ((session.number / n + 1) * n))
  | .last => if session.rest.isEmpty then none else some none
  | _ => some none

/-- Whether a command is meant for the current line, but for a negation. -/
def selects (session : Session) (index : Nat) (command : Command) : Bool × Session :=
  match command.first with
  | none => (true, session)
  | some first =>
    match command.second with
    | none => session.isMeant first
    | some second =>
      let closed := { session with active := session.active.filter fun entry ↦ entry.1 != index }
      match session.active.find? fun entry ↦ entry.1 == index with
      | some (_, some n) =>
        let session := if n ≤ session.number then closed else session
        if session.number ≤ n then (true, session) else session.isMeant first
      | some (_, none) =>
        let (ends, after) := session.isMeant second
        (true, if ends then { closed with lastPattern := after.lastPattern, fault := after.fault }
          else after)
      | none =>
        let (begins, session) := session.isMeant first
        if !begins then (false, session)
        else match session.rangeEnd second with
          | none => (true, session)
          | some ends => (true, { session with active := (index, ends) :: session.active })

/-! ## Substitution -/

/-- What a letter does to the case of a text. -/
def cased (letter : UInt8) (text : Bytes) : Bytes :=
  if letter = byte 'U' || letter = byte 'u' then text.map toCapital
  else if letter = byte 'L' || letter = byte 'l' then text.map toSmall
  else text

/-- The replacement for a match. -/
def replacementFor (parts : List ReplacementPart) (found : Regex.Match) : Bytes :=
  let add := fun (state : Bytes × UInt8 × Option UInt8) (content : Bytes) ↦
    let (done, mode, once) := state
    match once, content with
    | some letter, b :: rest => (done ++ cased letter [b] ++ cased mode rest, mode, none)
    | _, _ => (done ++ cased mode content, mode, once)
  (parts.foldl (fun (state : Bytes × UInt8 × Option UInt8) part ↦
    match part with
    | .text content => add state content
    | .group n =>
      add state (if n = 0 then found.text
        else ((found.groups.find? fun entry ↦ entry.1 == n).map Prod.snd).getD [])
    | .case letter =>
      if letter = byte 'u' || letter = byte 'l' then (state.1, state.2.1, some letter)
      else (state.1, letter, none)) (([], byte 'E', none) : Bytes × UInt8 × Option UInt8)).1

/-- A text with matches replaced, from a given one on, and whether there was one.  A match of nothing
right behind another match does not count. -/
def replaced (regex : Regex) (mode : Regex.Mode) (substitution : Substitution) :
    Nat → Nat → Option Nat → Option UInt8 → Nat → Bytes → Bytes × Bool
  | 0, _, _, _, _, text => (text, false)
  | fuel + 1, count, ended, before, position, text =>
    match regex.findFrom mode before position text with
    | none => (text, false)
    | some found =>
      let skipped := text.take (found.start - position)
      let isRepeated := found.text.isEmpty && ended = some found.start
      let count := if isRepeated then count else count + 1
      let isChosen := !isRepeated && substitution.first ≤ count
      let new := if isChosen then replacementFor substitution.replacement found else found.text
      let finishes := isChosen && !substitution.isGlobal
      let ends := found.start + found.text.length
      if finishes then (skipped ++ new ++ found.rest, true)
      else if found.text.isEmpty then
        match found.rest with
        | [] => (skipped ++ new, isChosen)
        | b :: rest =>
          let (after, any) := replaced regex mode substitution fuel count (some ends) (some b) (ends + 1) rest
          (skipped ++ new ++ b :: after, any || isChosen)
      else
        let (after, any) := replaced regex mode substitution fuel count (some ends) found.before ends
          found.rest
        (skipped ++ new ++ after, any || isChosen)

/-- A substitution in the pattern space. -/
def substitute (setting : Setting) (session : Session) (substitution : Substitution) : Session :=
  match session.usePattern substitution.pattern with
  | (none, session) => session
  | (some (regex, mode), session) =>
    let mode := { mode with
      ignoresCase := mode.ignoresCase || substitution.pattern.ignoresCase
      hasLines := mode.hasLines || substitution.pattern.hasLines }
    let (pattern, isDone) := replaced regex mode substitution (session.pattern.length + 2) 0 none none 0
      session.pattern
    if !isDone then session
    else
      let session := { session with pattern, hasChanged := true }
      let session := if substitution.prints then session.print setting else session
      match substitution.file with
      | some path => session.write (some path) session.pattern [setting.ender]
      | none => session

/-! ## Showing -/

/-- A byte in a form that can be seen. -/
def visible (b : UInt8) : Bytes :=
  if b = byte '\\' then bytes "\\\\"
  else (unprintable? b).getD [b]

/-- A text in a form that can be seen, broken into lines of a width. -/
def shown (width : Nat) (text : Bytes) : Bytes :=
  let (done, _) := text.foldl (fun (state : List Bytes × Nat) b ↦
    let unit := visible b
    if 1 < width && width - 1 < state.2 + unit.length then
      (unit :: bytes "\\\n" :: state.1, unit.length)
    else (unit :: state.1, state.2 + unit.length)) ([], 0)
  done.reverse.flatten ++ bytes "$"

/-! ## Commands -/

/-- The place behind a jump to a label; without a name it is the end. -/
def jump (setting : Setting) (name : Bytes) : Nat :=
  if name.isEmpty then setting.commands.size
  else (labelPlace? setting.commands name).getD setting.commands.size

/-- What a simple command does; nothing if the commands for this line come to an end. -/
def simple (setting : Setting) (letter : UInt8) (session : Session) : Session × Option Outcome :=
  match Char.ofNat letter.toNat with
  | '=' => (session.writeText none (ofNatural session.number ++ [lineEnd]), none)
  | 'd' => (session, some .deleted)
  | 'D' =>
    if session.pattern.contains lineEnd then
      ({ session with pattern := (session.pattern.dropWhile (· != lineEnd)).drop 1 }, some .again)
    else (session, some .deleted)
  | 'g' => ({ session with pattern := session.hold }, none)
  | 'G' => ({ session with pattern := session.pattern ++ setting.ender :: session.hold }, none)
  | 'h' => ({ session with hold := session.pattern }, none)
  | 'H' => ({ session with hold := session.hold ++ setting.ender :: session.pattern }, none)
  | 'x' => ({ session with pattern := session.hold, hold := session.pattern }, none)
  | 'n' =>
    if session.rest.isEmpty then (session, some (.quit false 0))
    else
      let session := if setting.isQuiet then session else session.print setting
      ((session.advance setting false).getD session, none)
  | 'N' =>
    match session.advance setting true with
    | some session => (session, none)
    | none => (session, some (.quit false 0))
  | 'p' => (session.print setting, none)
  | 'P' => (session.write none (session.pattern.takeWhile (· != lineEnd)) [setting.ender], none)
  | 'z' => ({ session with pattern := [] }, none)
  | 'F' => (session.writeText none (session.name ++ [lineEnd]), none)
  | _ => (session, none)

/-- The commands from a place on. -/
def run (setting : Setting) : Nat → Nat → Session → Session × Outcome
  | 0, _, session => (session, .endless)
  | fuel + 1, index, session =>
    match setting.commands[index]? with
    | none => (session, .done)
    | some command =>
      let (isMeant, session) := session.selects index command
      let next := fun (session : Session) ↦ run setting fuel (index + 1) session
      if session.fault.isSome then (session, .quit true 1)
      else if isMeant == command.isNegated then
        match command.action with
        | .block ends => run setting fuel (ends + 1) session
        | _ => next session
      else match command.action with
        | .block _ | .blockEnd | .label _ => next session
        | .simple letter =>
          match session.simple setting letter with
          | (session, none) => next session
          | (session, some outcome) => (session, outcome)
        | .append text => next { session with appended := session.appended ++ [.text text] }
        | .insert text => next (session.writeText none text)
        | .change text =>
          let isInside := session.active.any fun entry ↦ entry.1 == index
          (if isInside && !command.isNegated then session else session.writeText none text, .deleted)
        | .branch name => run setting fuel (jump setting name) session
        | .branchIf changed name =>
          if session.hasChanged == changed then
            run setting fuel (jump setting name) { session with hasChanged := false }
          else next { session with hasChanged := false }
        | .show width =>
          next (session.writeText none (shown (width.getD setting.width) session.pattern ++ [lineEnd]))
        | .quit isQuiet status => (session, .quit isQuiet status)
        | .readFile path => next { session with appended := session.appended ++ [.file path] }
        | .readLine path => next { session with appended := session.appended ++ [.line path] }
        | .writeFile path => next (session.write (some path) session.pattern [setting.ender])
        | .writeLine path =>
          next (session.write (some path) (session.pattern.takeWhile (· != lineEnd)) [setting.ender])
        | .substitute substitution =>
          let session := session.substitute setting substitution
          if session.fault.isSome then (session, .quit true 1) else next session
        | .exchange pairs =>
          next { session with pattern := session.pattern.map fun b ↦
            ((pairs.find? fun pair ↦ pair.1 == b).map Prod.snd).getD b }

/-- How often commands are run for one line before they are taken to go on for ever. -/
def greatestRun : Nat := 100000

/-- All lines that are left, one after the other; the status if a command ends the editing. -/
def cycles (setting : Setting) : Nat → Bool → Session → Session × Option Nat × Bool
  | 0, _, session => (session, none, false)
  | fuel + 1, needsLine, session =>
    match if needsLine then session.advance setting false else some session with
    | none => (session.flush setting, none, false)
    | some session =>
      let session := if needsLine then { session with hasChanged := false } else session
      match run setting greatestRun 0 session with
      | (session, .done) =>
        cycles setting fuel true (if setting.isQuiet then session else session.print setting)
      | (session, .deleted) => cycles setting fuel true session
      | (session, .again) => cycles setting fuel false (session.flush setting)
      | (session, .quit isQuiet status) =>
        let session := if isQuiet || setting.isQuiet then session else session.print setting
        (session.flush setting, some status, false)
      | (session, .endless) => (session, none, true)

end Session

/-- The paths that commands write to. -/
def targetPaths (commands : Array Command) : List Bytes :=
  (commands.toList.filterMap fun command ↦
    match command.action with
    | .writeFile path => some path
    | .writeLine path => some path
    | .substitute substitution => substitution.file
    | _ => none).eraseDups

/-- The commands whose ranges are active from the beginning. -/
def openRanges (commands : Array Command) : List (Nat × Option Nat) :=
  commands.toList.zipIdx.filterMap fun (command, index) ↦
    match command.first, command.second with
    | some (.line 0), some _ => some (index, none)
    | _, _ => none

end Editor

open Work Editor

/-- The options of `sed`. -/
def editorOptions : List OptionKind :=
  [flag 'n' "quiet", ⟨some 'n', "silent", .nothing⟩, taking 'e' "expression", taking 'f' "file",
    flag 'E' "regexp-extended", flag 'r' "", ⟨some 'i', "in-place", .perhaps⟩, taking 'l' "line-length",
    flag 's' "separate", flag 'u' "unbuffered", flag 'z' "null-data", long "posix", long "debug",
    long "sandbox", long "follow-symlinks"]

/-- Lines edited by a script. -/
def sed : Utility := do
  let options ← options editorOptions 1 false
  let pieces ← (options.given.filter fun entry ↦ entry.1 == "e" || entry.1 == "f").mapM fun entry ↦ do
    if entry.1 == "e" then return entry.2
    else match ← readPath entry.2 with
      | .ok content => return chomp content
      | .error fault =>
        fail 1 (bytes "couldn\x27t open file " ++ entry.2 ++ bytes ": " ++ Text.encode fault.reason)
  let (pieces, names) ← if !pieces.isEmpty then pure (pieces, options.operands)
    else match options.operands with
      | script :: rest => pure ([script], rest)
      | [] =>
        putError (bytes "Usage: sed [OPTION]... \x7bscript-only-if-no-other-script\x7d [input-file]...\n")
        quit 1
  let extended := options.has "E" || options.has "r"
  let commands ← match readScript extended pieces with
    | .ok commands => pure commands
    | .error (status, message) => fail status message
  let hint := pieces.head?.getD []
  let isQuiet := options.has "n" || hint = bytes "#n" || (bytes "#n\n").isPrefixOf hint
  let ender := if options.has "z" then 0 else lineEnd
  let inPlace := options.has "i"
  let separates := options.has "s" || inPlace
  for path in targetPaths commands do
    if (View.descriptor? path).isNone then
      match ← change fun files ↦ files.write (argument path) [] with
      | none => pure ()
      | some fault =>
        fail 4 (bytes "couldn\x27t open file " ++ path ++ bytes ": " ++ Text.encode fault.reason)
  let names := if names.isEmpty then [bytes "-"] else names
  let sources ← names.filterMapM fun name ↦ do
    match ← readPath name with
    | .ok content =>
      let records := (cutAt ender content)
      let lines := records.dropLast.map fun text ↦ (⟨text, true⟩ : Line)
      let last := records.getLast?.getD []
      return some (name, if last.isEmpty then lines else lines ++ [⟨last, false⟩])
    | .error fault =>
      if fault = .isADirectory then
        if inPlace then
          blame 4 (bytes "couldn\x27t edit " ++ name ++ bytes ": not a regular file")
        else blame 2 (bytes "read error on " ++ name ++ bytes ": " ++ Text.encode fault.reason)
      else blame 2 (bytes "can\x27t read " ++ name ++ bytes ": " ++ Text.encode fault.reason)
      return none
  let groups := if separates then sources
    else [((sources.head?.map Prod.fst).getD (bytes "-"), sources.flatMap Prod.snd)]
  let width := match options.value? "l" with
    | some value => number 10 (value.takeWhile isDecimal)
    | none => 70
  let files := (← get).files
  let setting : Setting := ⟨commands, isQuiet, ender, width, files⟩
  let start : Session := { rest := [], active := openRanges commands }
  let (session, status, isEndless) := groups.foldl
    (fun (state : Session × Option Nat × Bool) (group : Bytes × List Line) ↦
      let (session, status, isEndless) := state
      if status.isSome || isEndless then state
      else
        let session := { session with
          rest := group.2, name := group.1, number := if separates then 0 else session.number }
        let written := session.written
        let session := if inPlace then { session with written := [] } else session
        let (session, status, isEndless) := session.cycles setting (2 * group.2.length + 100000) true
        let session := if inPlace then
            { session with
              written := (session.written.map fun part ↦
                (if part.1.isNone then some group.1 else part.1, part.2)) ++ written
              unfinished := session.unfinished.filter (· != none) } else session
        (session, status, isEndless)) (start, none, false)
  if isEndless then modify fun effect ↦ { effect with isEndless := true }
  if inPlace then
    for (name, lines) in groups do
      let suffix := (options.value? "i").getD []
      let content := lines.flatMap fun line ↦ line.text ++ if line.isWhole then [ender] else []
      if !suffix.isEmpty then
        let base := (name.reverse.takeWhile (· != byte '/')).reverse
        let directory := name.take (name.length - base.length)
        let backup := if suffix.contains (byte '*') then
            suffix.flatMap fun b ↦ if b = byte '*' then base else [b]
          else base ++ suffix
        let _ ← change fun files ↦ files.write (argument (directory ++ backup)) content
      let _ ← change fun files ↦ files.write (argument name) []
  for (target, content) in session.written.reverse do
    match target with
    | none => put content
    | some path =>
      match View.descriptor? path with
      | some 2 => putError content
      | some _ => put content
      | none =>
        let _ ← change fun files ↦ do
          files.write (argument path) ((← files.read (argument path)) ++ content)
  match session.fault with
  | some message => fail 1 (bytes "-e expression #1, char 0: " ++ message)
  | none =>
    match status with
    | some 0 => pure ()
    | some status => quit status
    | none => pure ()

end CodeRepair.Shell
