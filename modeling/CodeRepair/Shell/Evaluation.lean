import CodeRepair.Shell.Arithmetic
import CodeRepair.Shell.Process

/-!
# Running scripts

A script runs in a process.  Its words are expanded from left to right, then redirections take effect,
then variables are set, and then the command is found and run: as a function, by the shell itself, or
as a program in a process of its own.  Scripts are run to a bounded depth; what goes deeper is taken to
have no end.
-/

namespace CodeRepair.Shell

/-- The commands of the lines from a place on are run, one line after the other; whether there are any.
Texts that stand in the lines are kept under numbers of their own. -/
def runLines (run : Bool → Script → Run Unit) (endsProcess : Bool) : Nat → Bool → Cursor → Run Bool
  | 0, _, _ => throw .endless
  | fuel + 1, hasRun, cursor => do
    let state ← get
    match { cursor with next := state.documents.length, aliases := state.own.aliases }.readLine with
    | .error fault =>
      changeOwn fun own ↦ { own with line := fault.line }
      giveUp (bytes "Syntax error: " ++ Text.encode fault.message)
    | .ok (none, _) => return hasRun
    | .ok (some script, cursor) =>
      modify fun state ↦ { state with documents := cursor.documents ++ state.documents }
      let cursor := { cursor with documents := [] }
      match script with
      | some script =>
        run (endsProcess && cursor.atEnd) script
        runLines run endsProcess fuel true cursor
      | none => runLines run endsProcess fuel hasRun cursor

/-- The commands of a text are run; whether there are any. -/
def runText (run : Bool → Script → Run Unit) (endsProcess : Bool) (text : Bytes) : Run Bool := do
  let text := argument text
  runLines run endsProcess (text.length + 1) false { text }

/-! ## Parts of words -/

/-- Fields one behind the other. -/
def joinFields (fields : List (List Symbol)) : List Symbol :=
  List.intercalate [.cut] fields

/-- The text at the beginning of a word or behind a colon, with the directories that tildes stand
for. -/
def tildeSymbols (state : State) (endsAtColon loose isWhole : Bool) (text : Text) : List Symbol :=
  let plain := fun (text : Text) ↦ symbolsOf false loose (Text.encode text)
  match splitTilde? endsAtColon text with
  | some (name, rest) =>
    if rest.isEmpty && !isWhole then plain text
    else match homeOf (state.valueOf? "HOME".toList) name with
      | some home => (home.map fun b ↦ Symbol.byte b true false) ++ plain rest
      | none => plain text
  | none => plain text

/-- A text in which tildes may stand behind colons. -/
def colonSymbols (state : State) (loose isWhole : Bool) (text : Text) : List Symbol :=
  match Text.pieces ':' text with
  | [] => []
  | first :: others =>
    let last := others.length
    let whole := fun (n : Nat) ↦ n < last || isWhole
    tildeSymbols state true loose (whole 0) first ++
      ((others.zip (List.range others.length)).map fun entry ↦
        Symbol.byte (byte ':') false loose ::
          tildeSymbols state true loose (whole (entry.2 + 1)) entry.1).flatten

/-- Where tildes may stand in a word. -/
inductive Tildes
  | nowhere
  | first
  /-- Behind colons as well. -/
  | each
  deriving DecidableEq, Repr

/-- The value of a parameter as symbols. -/
def valueSymbols (state : State) (splits quoted : Bool) (name : Text) (value : Bytes) : List Symbol :=
  if splits && (name = ['@'] || (name = ['*'] && !quoted)) then
    joinFields (state.own.arguments.map fun argument ↦ symbolsOf quoted true argument)
  else if name = ['@'] && quoted && state.own.arguments.isEmpty then []
  else symbolsOf quoted splits value

/-- A parameter that has to have a value is missing. -/
def refuseMissing {α : Type} (name : Text) : Run α :=
  giveUp (Text.encode name ++ bytes ": parameter not set")

/-- The text that stands in a script under a number. -/
def documentOf (number : Nat) : Run Word := do
  return (((← get).documents.find? fun entry ↦ entry.1 == number).map Prod.snd).getD []

/-- What a redirection target says. -/
def targetOf (direction : Direction) (path : Bytes) : Run Target := do
  if direction = .duplicate then
    match path with
    | [b] =>
      if b = byte '-' then return .closed
      else if isDecimal b then return .same (digitOf b)
      else giveUp (bytes "Syntax error: Bad fd number")
    | _ => giveUp (bytes "Syntax error: Bad fd number")
  else return .path direction path

/-- Whether a word sets a variable. -/
def isSetting (word : Word) : Bool :=
  (Word.assignment? word).isSome

/-- The words behind `command` and its options, unless these ask for something else than running. -/
def behindCommand : Nat → List Bytes → Option (List Bytes)
  | 0, _ => none
  | fuel + 1, words =>
    match words with
    | [] => some []
    | word :: rest =>
      if word = bytes "--" then some rest
      else if word = bytes "-p" then behindCommand fuel rest
      else if word.head? = some (byte '-') && 1 < word.length then none
      else some words

/-- A command as it is found. -/
inductive Found.Command
  | function (body : Script)
  | own (isSpecial : Bool)
  | program

/-- The commands that set variables from their arguments. -/
def settingCommands : List String := ["export", "local", "readonly"]

/-- The text of a command that is shown before it is run. -/
def traceLine (state : State) (assignments : List (Text × Bytes)) (arguments : List Bytes) : Bytes :=
  let settings := assignments.map fun entry ↦ Text.encode entry.1 ++ [byte '='] ++ entry.2
  (state.valueOf? "PS4".toList).getD [] ++ List.intercalate [byte ' '] (settings ++ arguments) ++ [lineEnd]

/-- Bytes are written to a stream, whatever comes of it. -/
def writeTo (index : Nat) (content : Bytes) : Run Unit :=
  modify fun state ↦
    match state.write index content with
    | .ok state => state
    | .error _ => state

/-- The jobs that hold a stream and have not been run. -/
def holders (index : Nat) : Run (List Nat) := do
  let state ← get
  return (state.jobs.filter fun job ↦
    job.progress == .waiting && job.own.descriptors.any fun entry ↦ entry.2 == index).map Job.process

/-- The variables that a new shell knows. -/
def storeFor (environment : List (Text × Bytes)) (path : Path) (parent : Nat) :
    List (Text × Cell) :=
  let known := environment.filter fun entry ↦ isName entry.1
  let store : List (Text × Cell) := known.map fun entry ↦ (entry.1, ⟨some entry.2, true, false⟩)
  let default := fun (store : List (Text × Cell)) (name value : String) ↦
    if store.any fun entry ↦ entry.1 == name.toList then store
    else putCell name.toList ⟨some (bytes value), false, false⟩ store
  let store := default store "PATH" "/usr/local/sbin:/usr/local/bin:/usr/sbin:/usr/bin:/sbin:/bin"
  let store := default store "PS1" "# "
  let store := default store "PS2" "> "
  let store := default store "PS4" "+ "
  let set := fun (name : String) (value : Bytes) (exported : Bool) (store : List (Text × Cell)) ↦
    putCell name.toList ⟨some value, exported, false⟩ store
  set "IFS" [0x20, 0x09, 0x0A] false (set "OPTIND" (bytes "1") false
    (set "PPID" (ofNatural parent) false (set "PWD" (Text.encode path) true store)))

/-- The arguments of a shell: whether it runs a text, and what is left behind its options. -/
def shellOptionsOf : Nat → Bool → List Bytes → Run (Bool × List Bytes)
  | 0, runsText, arguments => return (runsText, arguments)
  | fuel + 1, runsText, arguments => do
    match arguments with
    | [] => return (runsText, [])
    | first :: rest =>
      if first = bytes "-" || first = bytes "--" then return (runsText, rest)
      else if first.head? = some (byte '-') || first.head? = some (byte '+') then
        let letters := (first.drop 1).filter (· != byte 'c')
        let asksForText := letters.length < first.length - 1
        let usesNext ← changeOptions (first.head? == some (byte '-')) rest.head? letters
        shellOptionsOf fuel (runsText || asksForText) (if usesNext then rest.drop 1 else rest)
      else return (runsText, arguments)

/-- The signal among those that are going to arrive which stops a process, and its time. -/
def Own.end? (own : Own) : Option (Nat × Nat) :=
  own.arriving.find? fun entry ↦
    (entry.2 == 9 || !own.traps.any fun trap ↦ trap.1 == entry.2) && !isHarmless entry.2

/-- What is used of a job that has not ended at a moment. -/
inductive Remainder
  /-- All of it is awaited. -/
  | awaited
  /-- It has not been run at all. -/
  | undone (time : Nat)
  /-- What it did until then. -/
  | kept (time : Nat)

/-- A command ends because its redirections fail. -/
def failure : Run Unit := endWith 2

/-- The turns of a loop with their condition, and the status behind it. -/
def whileHolds (condition body : Run Unit) : Nat → Nat → Run Nat
  | 0, _ => throw .endless
  | turns + 1, status => do
    if !(← turn condition) || (← own).status != 0 then return status
    else
      let goesOn ← turn body
      let status := (← own).status
      if goesOn then whileHolds condition body turns status else return status

/-- The turns of a loop over values. -/
def forEach (body : Bytes → Run Unit) : List Bytes → Run Unit
  | [] => return ()
  | value :: values => do
    if ← turn (body value) then forEach body values

/-- A job is awaited that has ended, and how it did. -/
def awaitJob (process : Nat) : Run (Option Ended) := do
  match (← get).jobs.find? fun job ↦ job.process == process with
  | some { progress := .ended how time, .. } =>
    advance time
    return some how
  | _ => return none

/-- What is known about a job is changed. -/
def changeJob (process : Nat) (f : Job → Job) : Run Unit :=
  modify fun state ↦ { state with
    jobs := state.jobs.map fun (job : Job) ↦ if job.process == process then f job else job }

/-- The reason that a program is not run. -/
def refusalReason (fault : FileFault) : Bytes :=
  if fault = .notFound || fault = .notADirectory then bytes "not found" else Text.encode fault.reason

/-- The path by which a new shell has got to its directory. -/
def pathFor (state : State) : Path :=
  let physical := Location.path state.files.workingDirectory
  match state.environment.find? fun entry ↦ entry.1 == "PWD".toList with
  | some (_, path) =>
    let path := argument path
    if path.head? = some '/' && (state.files.canonical path).toOption = some state.files.workingDirectory then
      path
    else physical
  | none => physical

/-- What belongs to the process when it becomes a shell with a name. -/
def Own.shellNamed (own : Own) (name : Bytes) (state : State) : Own :=
  { name
    process := own.process
    shell := own.process
    descriptors := own.descriptors
    directory := state.files.workingDirectory
    path := pathFor state
    store := storeFor state.environment (pathFor state) (own.ancestors.head?.getD 1)
    ancestors := own.ancestors
    traps := own.traps.filter fun trap ↦ trap.2.isEmpty
    arriving := own.arriving
    line := 0 }

/-- The process becomes a program. -/
def becomeProgram : Run Unit :=
  changeOwn fun own ↦ { own with traps := own.traps.filter fun trap ↦ trap.2.isEmpty, noticed := [] }

/-- How a command is found; functions may be passed over. -/
def findCommand (passesFunctions : Bool) (name : Bytes) : Run Found.Command := do
  let own ← own
  let text := argument name
  match if passesFunctions then none else own.functions.find? fun entry ↦ entry.1 == text with
  | some (_, body) => return .function body
  | none =>
    if isAmong specialCommands name then return .own true
    else if isAmong regularCommands name then return .own false
    else return .program

/-- The value of an arithmetic expression. -/
def calculate (text : Text) : Run Int := do
  let state ← get
  let fail := fun (fault : Arithmetic.Fault) ↦ (giveUp (fault.message text) : Run Int)
  match Arithmetic.read text with
  | .error fault => fail fault
  | .ok expression =>
    match Arithmetic.evaluate (fun name ↦ (state.valueOf? name).getD []) expression [] with
    | .error fault => fail fault
    | .ok (n, changes) =>
      for change in changes.reverse do
        setVariable change.1 (ofInteger change.2) false
      return n

/-- What is run for a utility that starts a program. -/
def launchFor (start : Start) : Run (Except FileFault Launch) := do
  let state ← get
  let environment := start.environment.getD state.environment
  let searched := ((environment.find? fun entry ↦ entry.1 == "PATH".toList).map Prod.snd).getD
    (bytes "/bin:/usr/bin")
  return findLaunch state.files searched start.words

/-- The process gets the variables and the input of a program. -/
def adopt (start : Start) : Run Unit := do
  match start.environment with
  | some environment =>
    changeOwn fun own ↦ { own with
      store := environment.map fun entry ↦ (entry.1, ⟨some entry.2, true, false⟩) }
  | none => pure ()
  match start.directory with
  | some path =>
    modify fun state ↦
      match state.files.locate path with
      | .ok (location, .directory) =>
        { state with files := { state.files with workingDirectory := location } }
      | _ => state
  | none => pure ()
  match start.input with
  | some content => setDescriptor 0 (some (← openStream (.source content (some 0))))
  | none => if !start.sharesInput then setDescriptor 0 (some (← openStream (.device .null)))

/-- A script that failed ends a shell which was asked for that. -/
def checkStatus (manner : Manner) : Run Unit := do
  let state ← get
  if state.has 'e' && !manner.isTested && state.own.status != 0 then throw .exit

mutual

/-- A script is run. -/
def evaluate : Nat → Manner → Script → Run Unit
  | 0, _, _ => throw .endless
  | fuel + 1, manner, script => do
    if (← get).has 'n' then return ()
    match script with
    | .simple line assignments words redirections =>
      runSimple fuel manner line assignments words redirections
      handleSignals fuel
      checkStatus manner
    | .pipeline elements =>
      runPipeline fuel elements
      handleSignals fuel
      checkStatus manner
    | .negated body =>
      evaluate fuel { isTested := true } body
      endWith (if (← own).status = 0 then 1 else 0)
    | .both left right =>
      evaluate fuel { isTested := true } left
      if (← own).status = 0 then evaluate fuel manner right
    | .either left right =>
      evaluate fuel { isTested := true } left
      if (← own).status != 0 then evaluate fuel manner right
    | .sequence left right =>
      evaluate fuel { manner with isLast := false } left
      evaluate fuel manner right
    | .redirected line body redirections =>
      changeOwn fun own ↦ { own with line }
      let targets ← redirectionTargets fuel redirections
      redirecting targets false failure (evaluate fuel { manner with isLast := false } body)
      checkStatus manner
    | .subshell line body redirections =>
      changeOwn fun own ↦ { own with line }
      let inside := do
        let targets ← redirectionTargets fuel redirections
        redirecting targets false failure (evaluate fuel { manner with isLast := true } body)
      if manner.isLast && !(← own).hasTraps then
        inside
        throw .exit
      else
        let ended ← asChild (finish fuel inside)
        tellEnd ended
        endWith ended.status
        handleSignals fuel
        checkStatus manner
    | .choice condition body otherwise =>
      evaluate fuel { isTested := true } condition
      if (← own).status = 0 then evaluate fuel manner body
      else
        endWith 0
        evaluate fuel manner otherwise
    | .loop condition body =>
      looping do
        endWith (← whileHolds (evaluate fuel { isTested := true } condition)
          (evaluate fuel { manner with isLast := false } body) greatestTurns 0)
    | .iteration line name words body =>
      changeOwn fun own ↦ { own with line }
      let values ← argumentsFor fuel words
      endWith 0
      looping (forEach (fun value ↦ do
        setVariable name value false
        evaluate fuel { manner with isLast := false } body) values)
    | .selection line word branches =>
      changeOwn fun own ↦ { own with line }
      let value := Symbol.bytesOf (← expandWord fuel false .first word)
      runSelection fuel manner value branches
    | .definition name _ body =>
      changeOwn fun own ↦ { own with
        functions := (name, body) :: own.functions.filter fun entry ↦ entry.1 != name }
      endWith 0
    | .background body =>
      let null ← openStream (.device .null)
      let state ← get
      let process := state.nextProcess
      let own := state.own.child process
      let others := own.descriptors.filter fun entry ↦ entry.1 != 0
      let job : Job := {
        parent := state.own.process
        script := body
        own := { own with descriptors := others ++ [(0, null)], directory := state.own.directory }
        started := state.clock }
      set { state with nextProcess := process + 1, jobs := state.jobs ++ [job] }
      changeOwn fun own ↦ { own with lastJob := some process }
      endWith 0
      handleSignals fuel
    | .idle => return ()

/-- The script of the first branch with a pattern that a value matches is run. -/
def runSelection : Nat → Manner → Bytes → List (List Word × Script) → Run Unit
  | 0, _, _, _ => throw .endless
  | _, _, _, [] => endWith 0
  | fuel + 1, manner, value, (patterns, body) :: rest => do
    let holds ← patterns.foldlM (fun (holds : Bool) pattern ↦ do
      if holds then return true
      else
        let symbols ← expandWord fuel false .first pattern
        return globMatches (globOf (Symbol.markedOf symbols)) value) false
    if holds then
      match body with
      | .idle => endWith 0
      | body => evaluate fuel manner body
    else runSelection fuel manner value rest

/-- A process comes to its end by itself; what is to be run then is run. -/
def finish : Nat → Run Unit → Run Unit
  | 0, _ => throw .endless
  | fuel + 1, run => do
    match ← Run.attempt run with
    | .error (.signal signal) => throw (.signal signal)
    | .error .timeout => throw .timeout
    | .error .endless => throw .endless
    | .error .replaced => return ()
    | _ =>
      match (← own).traps.find? fun trap ↦ trap.1 == 0 && !trap.2.isEmpty with
      | none => return ()
      | some (_, action) =>
        let status := (← own).status
        changeOwn fun own ↦ { own with traps := own.traps.filter fun trap ↦ trap.1 != 0 }
        match ← Run.attempt (runText (fun _ script ↦ evaluate fuel {} script) false action) with
        | .error .exit | .error .fail | .error .replaced => return ()
        | .error (.signal signal) => throw (.signal signal)
        | .error .timeout => throw .timeout
        | .error .endless => throw .endless
        | _ => endWith status

/-- What signals that have arrived ask for is run. -/
def handleSignals : Nat → Run Unit
  | 0 => throw .endless
  | fuel + 1 => do
    noticeSignals
    let noticed := (← own).noticed
    if !noticed.isEmpty then
      changeOwn fun own ↦ { own with noticed := [] }
      for signal in noticed do
        match (← own).traps.find? fun trap ↦ trap.1 == signal with
        | some (_, action) =>
          let status := (← own).status
          let _ ← runText (fun _ script ↦ evaluate fuel {} script) false action
          endWith status
        | none => pure ()

/-- The symbols of a word. -/
def expandWord : Nat → Bool → Tildes → Word → Run (List Symbol)
  | 0, _, _, _ => throw .endless
  | fuel + 1, splits, tildes, word => expandParts fuel splits tildes true word

/-- The symbols of the parts of a word. -/
def expandParts : Nat → Bool → Tildes → Bool → Word → Run (List Symbol)
  | 0, _, _, _, _ => throw .endless
  | _, _, _, _, [] => return []
  | fuel + 1, splits, tildes, isFirst, part :: rest => do
    let symbols ← expandPart fuel splits tildes isFirst rest.isEmpty part
    return symbols ++ (← expandParts fuel splits tildes false rest)

/-- The symbols of a part of a word. -/
def expandPart : Nat → Bool → Tildes → Bool → Bool → Part → Run (List Symbol)
  | 0, _, _, _, _, _ => throw .endless
  | fuel + 1, splits, tildes, isFirst, isLast, part => do
    let state ← get
    match part with
    | .text value true => return symbolsOf true false (Text.encode value)
    | .text value false =>
      if tildes = .each then return colonSymbols state false isLast value
      else if tildes = .first && isFirst then return tildeSymbols state false false isLast value
      else return symbolsOf false false (Text.encode value)
    | .parameter name use quoted => expandParameter fuel splits quoted name use
    | .output script quoted =>
      let content ← outputOf fuel script
      return symbolsOf quoted splits (dropLineEnds (content.filter (· != 0)))
    | .arithmetic expression quoted =>
      let symbols ← expandWord fuel false .nowhere expression
      let n ← calculate (argument (Symbol.bytesOf symbols))
      return symbolsOf quoted splits (ofInteger n)

/-- The symbols of a parameter and what is made of it. -/
def expandParameter : Nat → Bool → Bool → Text → Use → Run (List Symbol)
  | 0, _, _, _, _ => throw .endless
  | fuel + 1, splits, quoted, name, use => do
    let state ← get
    let value := state.parameter? name
    let isMissing := fun (orEmpty : Bool) ↦
      match value with
      | none => true
      | some value => orEmpty && value.isEmpty
    let isDemanded := state.has 'u' && value.isNone
    let whole := fun (state : State) (value : Bytes) ↦ valueSymbols state splits quoted name value
    let inner := fun (word : Word) ↦ (do
      let symbols ← expandWord fuel splits (if quoted then .nowhere else .first) word
      let loosened := symbols.map fun
        | .byte b false _ => Symbol.byte b false (splits && !quoted)
        | symbol => symbol
      return if quoted then .mark :: loosened else loosened : Run (List Symbol))
    match use with
    | .malformed => giveUp (bytes "Bad substitution")
    | .value =>
      if isDemanded then refuseMissing name
      return whole state (value.getD [])
    | .length =>
      if isDemanded then refuseMissing name
      return symbolsOf quoted splits (ofNatural (value.getD []).length)
    | .default orEmpty word =>
      if isMissing orEmpty then inner word else return whole state (value.getD [])
    | .replace orEmpty word =>
      if isMissing orEmpty then return (if quoted then [.mark] else []) else inner word
    | .demand orEmpty word =>
      if isMissing orEmpty then
        let message := Symbol.bytesOf (← expandWord fuel false .first word)
        let message := if !word.isEmpty then message
          else bytes "parameter not set" ++ if orEmpty then bytes " or null" else []
        giveUp (Text.encode name ++ bytes ": " ++ message)
      else return whole state (value.getD [])
    | .assign orEmpty word =>
      if isMissing orEmpty then
        let value := Symbol.bytesOf (← expandWord fuel false .first word)
        if !isName name then giveUp (Text.encode name ++ bytes ": bad variable name")
        setVariable name value false
        return whole (← get) value
      else return whole state (value.getD [])
    | .followed word =>
      if isDemanded then refuseMissing name
      return whole state (value.getD []) ++ (← inner word)
    | .cut cut pattern =>
      if isDemanded then refuseMissing name
      let symbols ← expandWord fuel false .first pattern
      return symbolsOf quoted splits (trimmed cut (Symbol.markedOf symbols) (value.getD []))

/-- What a script writes. -/
def outputOf : Nat → Script → Run Bytes
  | 0, _ => throw .endless
  | fuel + 1, script => do
    let count := (← get).streams.length
    let index ← openStream (.collector [])
    let ended ← asChild (finish fuel do
      setDescriptor 1 (some index)
      evaluate fuel { isLast := true } script)
    awaitHolders fuel index
    let content := (← get).written index
    tellEnd ended
    changeOwn fun own ↦ { own with outputStatus := ended.status }
    reclaim count
    return content

/-- The jobs that hold a stream are awaited. -/
def awaitHolders : Nat → Nat → Run Unit
  | 0, _ => throw .endless
  | fuel + 1, index => do
    for process in (← holders index) do
      settle fuel process .awaited
      let _ ← awaitJob process

/-- The arguments that words stand for. -/
def argumentsFor : Nat → List Word → Run (List Bytes)
  | 0, _ => throw .endless
  | _, [] => return []
  | fuel + 1, word :: rest => do
    let symbols ← expandWord fuel true .first word
    let state ← get
    let fields := fieldsOf state.separators symbols
    let arguments := fields.flatMap (argumentsOf state.files (!state.has 'f'))
    return arguments ++ (← argumentsFor fuel rest)

/-- The arguments of a command that sets variables: what is set is not split. -/
def settingsFor : Nat → List Word → Run (List Bytes)
  | 0, _ => throw .endless
  | _, [] => return []
  | fuel + 1, word :: rest => do
    let arguments ← match Word.assignment? word with
      | some (name, value) => do
        let symbols ← expandWord fuel false .each value
        pure [Text.encode name ++ [byte '='] ++ Symbol.bytesOf symbols]
      | none => argumentsFor fuel [word]
    return arguments ++ (← settingsFor fuel rest)

/-- The words of a simple command. -/
def commandArguments : Nat → List Word → Run (List Bytes)
  | 0, _ => throw .endless
  | _, [] => return []
  | fuel + 1, word :: rest => do
    match ← argumentsFor fuel [word] with
    | [] => commandArguments fuel rest
    | name :: others =>
      if others.isEmpty && name = bytes "command" then
        return name :: (← commandArguments fuel rest)
      else if isAmong settingCommands name then
        return name :: others ++ (← settingsFor fuel rest)
      else return name :: others ++ (← argumentsFor fuel rest)

/-- The redirections of a command with their targets. -/
def redirectionTargets : Nat → List Redirection → Run (List (Nat × Target))
  | 0, _ => throw .endless
  | _, [] => return []
  | fuel + 1, redirection :: rest => do
    let target ← match redirection with
      | .file descriptor direction word => do
        let path := Symbol.bytesOf (← expandWord fuel false .first word)
        pure (descriptor, ← targetOf direction path)
      | .document descriptor number => do
        let symbols ← expandWord fuel false .nowhere (← documentOf number)
        pure (descriptor, Target.document (Symbol.bytesOf symbols))
    return target :: (← redirectionTargets fuel rest)

/-- The variables in front of a command are set, perhaps only for it. -/
def assignAll : Nat → Bool → List (Text × Word) → Run (List (Text × Bytes))
  | 0, _, _ => throw .endless
  | _, _, [] => return []
  | fuel + 1, isTemporary, (name, word) :: rest => do
    let value := Symbol.bytesOf (← expandWord fuel false .each word)
    if isTemporary then keepVariable name
    setVariable name value isTemporary
    return (name, value) :: (← assignAll fuel isTemporary rest)

/-- A simple command is run. -/
def runSimple : Nat → Manner → Nat → List (Text × Word) → List Word → List Redirection → Run Unit
  | 0, _, _, _, _, _ => throw .endless
  | fuel + 1, manner, line, assignments, words, redirections => do
    changeOwn fun own ↦ { own with line, outputStatus := 0 }
    let arguments ← commandArguments fuel words
    let targets ← redirectionTargets fuel redirections
    let traced := (← get).indexOf 2
    let trace := fun (settings : List (Text × Bytes)) ↦ (do
      let state ← get
      if state.has 'x' then
        match traced with
        | some index => writeTo index (traceLine state settings arguments)
        | none => return () : Run Unit)
    let stripped := if arguments.head? = some (bytes "command") then
        behindCommand (arguments.length + 1) (arguments.drop 1)
      else none
    let isStripped := stripped.isSome
    match stripped.getD arguments with
    | [] =>
      redirecting targets false failure do
        let settings ← assignAll fuel isStripped assignments
        trace settings
        endWith (← own).outputStatus
    | name :: rest =>
      let words := name :: rest
      let found ← findCommand isStripped name
      match found with
      | .own true =>
        let failed := do
          failure
          if !isStripped then throw .fail
        redirecting targets (name == bytes "exec") failed do
          let settings ← assignAll fuel isStripped assignments
          trace settings
          runOwn fuel manner (!isStripped) words
      | found =>
        redirecting targets false failure do
          restoring do
            let settings ← assignAll fuel true assignments
            trace settings
            match found with
            | .function body => callFunction fuel manner body rest
            | .own _ => runOwn fuel manner false words
            | .program => runProgram fuel manner words

/-- The elements of a pipeline are run, each with what the one before it wrote; whether all of them
ended, when, and how the last one did. -/
def runElements : Nat → Nat → Option Nat → List Script → Run (Bool × Nat × Nat)
  | 0, _, _, _ => throw .endless
  | _, start, _, [] => return (true, start, 0)
  | fuel + 1, start, input, element :: rest => do
    modify fun state ↦ { state with clock := start }
    let output ← openStream (.collector [])
    let isLast := rest.isEmpty
    let result ← Run.attempt do
      let ended ← asChild (finish fuel do
        if input.isSome then setDescriptor 0 input
        if !isLast then setDescriptor 1 (some output)
        evaluate fuel { isLast := true } element)
      if !isLast then awaitHolders fuel output
      return ended
    let time := (← get).clock
    match result with
    | .ok ended =>
      if isLast then
        tellEnd ended
        return (true, time, ended.status)
      else
        let content := (← get).written output
        let source ← openStream (.source content (some time))
        let (isWhole, end', status) ← runElements fuel start (some source) rest
        tellEnd ended
        return (isWhole, max time end', status)
    | .error flow =>
      if isLast || !(flow == .timeout || flow == .endless) then throw flow
      else
        let content := (← get).written output
        let source ← openStream (.source content none)
        let (isWhole, end', status) ← runElements fuel start (some source) rest
        return (isWhole && flow == .endless, max (if flow == .endless then start else time) end', status)

/-- A pipeline is run. -/
def runPipeline : Nat → List Script → Run Unit
  | 0, _ => throw .endless
  | fuel + 1, elements => do
    let before ← get
    let (isWhole, time, status) ← runElements fuel before.clock none elements
    reclaim before.streams.length
    modify fun state ↦ { state with clock := time }
    if !isWhole then throw .timeout
    endWith status

/-- A function is run with arguments. -/
def callFunction : Nat → Manner → Script → List Bytes → Run Unit
  | 0, _, _, _ => throw .endless
  | fuel + 1, manner, body, arguments => do
    let before ← own
    if 1000 ≤ before.calls then
      giveUp (bytes "Maximum function recursion depth (1000) reached")
    changeOwn fun own ↦ { own with
      calls := own.calls + 1, arguments, loops := 0, letters := 0, keptOptions := none :: own.keptOptions }
    let result ← Run.attempt (restoring (evaluate fuel { isTested := manner.isTested } body))
    changeOwn fun own ↦ { own with
      calls := before.calls
      arguments := before.arguments
      loops := before.loops
      letters := before.letters
      options := (own.keptOptions.head?.join).getD own.options
      keptOptions := own.keptOptions.drop 1 }
    match result with
    | .ok () | .error .leaveFunction => return ()
    | .error flow => throw flow

/-- A command of the shell itself is run.  A mistake in a special one ends the shell. -/
def runOwn : Nat → Manner → Bool → List Bytes → Run Unit
  | 0, _, _, _ => throw .endless
  | fuel + 1, manner, isSpecial, words => do
    let before := (← own).called
    let name := words.head?.getD []
    changeOwn fun own ↦ { own with called := some name, statusBefore := own.status }
    endWith 0
    let result ← Run.attempt (perform fuel manner words)
    admitFailure
    changeOwn fun own ↦ { own with called := before }
    match result with
    | .ok () => return ()
    | .error .fail => if isSpecial then throw .fail
    | .error flow => throw flow

/-- What a command of the shell itself does. -/
def perform : Nat → Manner → List Bytes → Run Unit
  | 0, _, _ => throw .endless
  | fuel + 1, manner, words => do
    let arguments := words.drop 1
    match String.ofList (argument (words.head?.getD [])) with
    | "eval" =>
      endWith (← own).statusBefore
      let run := fun (_ : Bool) (script : Script) ↦ evaluate fuel { isTested := manner.isTested } script
      if !(← runText run false (List.intercalate [byte ' '] arguments)) then endWith 0
    | "." => source fuel arguments
    | "command" =>
      let (letters, names) ← lettersOf "pvV" arguments
      match names with
      | [] => return ()
      | name :: _ =>
        if letters.any fun entry ↦ entry.1 == 'V' then
          endWith (if ← describe name then 0 else 127)
        else spell name
    | "exec" => replaceShell fuel arguments
    | "wait" => waitFor fuel arguments
    | name =>
      match plainCommands.find? fun entry ↦ entry.1 == name with
      | some (_, run) => run arguments
      | none => return ()

/-- The commands of a file are run by the shell itself. -/
def source : Nat → List Bytes → Run Unit
  | 0, _ => throw .endless
  | fuel + 1, arguments => do
    match arguments with
    | [] => return ()
    | name :: _ =>
      let state ← get
      let text := argument name
      let path ← if text.contains '/' then pure text
        else
          let isFile := fun (path : Path) ↦
            match state.files.locate path with
            | .ok (_, .file _) => true
            | _ => false
          match (candidatesOf state.searched text).find? isFile with
          | some path => pure path
          | none => giveUp (name ++ bytes ": not found")
      match state.files.locate path with
      | .error fault => refusePath "open" (Text.encode path) (readFaultReason fault)
      | .ok _ => pure ()
      let content := (state.files.read path).toOption.getD []
      endWith state.own.statusBefore
      changeOwn fun own ↦ { own with called := some (Text.encode path) }
      match ← Run.attempt (runText (fun _ script ↦ evaluate fuel {} script) false content) with
      | .ok hasRun => if !hasRun then endWith 0
      | .error .leaveFunction => return ()
      | .error flow => throw flow

/-- The shell becomes a program. -/
def replaceShell : Nat → List Bytes → Run Unit
  | 0, _ => throw .endless
  | fuel + 1, words => do
    match words with
    | [] => return ()
    | name :: _ =>
      let state ← get
      match findLaunch state.files state.searched words with
      | .error fault =>
        complain (name ++ bytes ": " ++ refusalReason fault)
        endWith (Ended.refused fault).status
        throw .exit
      | .ok launch =>
        runLaunch fuel launch
        throw .replaced

/-- A program is run in a process of its own, or in that of the shell if nothing follows. -/
def runProgram : Nat → Manner → List Bytes → Run Unit
  | 0, _, _ => throw .endless
  | fuel + 1, manner, words => do
    let state ← get
    let name := words.head?.getD []
    match findLaunch state.files state.searched words with
    | .error fault =>
      complain (name ++ bytes ": " ++ refusalReason fault)
      endWith (Ended.refused fault).status
    | .ok launch =>
      changeOwn fun own ↦ { own with hashed := name :: own.hashed }
      if manner.isLast && !state.own.hasTraps then
        runLaunch fuel launch
        throw .replaced
      else
        let ended ← asChild (runLaunch fuel launch)
        tellEnd ended
        endWith ended.status

/-- The process becomes a program and runs it. -/
def runLaunch : Nat → Launch → Run Unit
  | 0, _ => throw .endless
  | fuel + 1, launch => do
    becomeProgram
    match launch with
    | .script path _ arguments => startShell fuel (bytes "sh" :: Text.encode path :: arguments)
    | .program name words =>
      match program? name with
      | some (.utility work) =>
        let _ ← performWork work words
      | some (.planning work) =>
        match ← performWork work words with
        | some plan => runPlan fuel plan
        | none => return ()
      | some .shell => startShell fuel words
      | none => endWith 0

/-- A plan is carried out. -/
def runPlan : Nat → Plan → Run Unit
  | 0, _ => throw .endless
  | fuel + 1, plan => do
    match plan with
    | .finish status => endWith status
    | .stop signal => throw (.signal signal)
    | .write isError content next =>
      let _ ← emit (if isError then 2 else 1) content
      runPlan fuel next
    | .change f next =>
      modify fun state ↦ { state with files := f state.files }
      runPlan fuel next
    | .pause milliseconds next =>
      pause fuel milliseconds
      runPlan fuel next
    | .run start next =>
      let ended ← startProgram fuel start none
      runPlan fuel (next ended)
    | .consult start next =>
      let count := (← get).streams.length
      let index ← openStream (.collector [])
      let ended ← startProgram fuel start (if start.isHeard then some index else none)
      awaitHolders fuel index
      let state ← get
      let content := state.written index
      reclaim count
      runPlan fuel (next ended content state.files)
    | .become start next =>
      match ← launchFor start with
      | .error fault => runPlan fuel (next fault)
      | .ok launch =>
        adopt start
        runLaunch fuel launch

/-- A program is run for a utility, which may listen to it, and how it ends. -/
def startProgram : Nat → Start → Option Nat → Run Ended
  | 0, _, _ => throw .endless
  | fuel + 1, start, listener => do
    match ← launchFor start with
    | .error fault => return .refused fault
    | .ok launch =>
      let run := asChild do
        adopt start
        if listener.isSome then setDescriptor 1 listener
        runLaunch fuel launch
      return (← limited start.limit run).getD .expired

/-- Time passes, in which jobs may come to their ends and signals may arrive. -/
def pause : Nat → Nat → Run Unit
  | 0, _ => throw .endless
  | fuel + 1, milliseconds => do
    let state ← get
    let time := state.clock + milliseconds
    for job in state.jobs do
      if job.progress = .waiting then settle fuel job.process (.undone time)
    match state.own.arriving.find? fun entry ↦ entry.1 ≤ time with
    | some (moment, _) =>
      advance (max state.clock moment)
      noticeSignals
      advance time
    | none => advance time

/-- A job is run that has been waiting, and its end is noted. -/
def settle : Nat → Nat → Remainder → Run Unit
  | 0, _, _ => throw .endless
  | fuel + 1, process, remainder => do
    let before ← get
    match before.jobs.find? fun job ↦ job.process == process && job.progress == .waiting with
    | none => return ()
    | some job =>
      let deadline := match remainder with
        | .awaited => before.deadline
        | .undone time | .kept time => min time before.deadline
      set { before with
        own := job.own
        clock := job.started
        deadline
        files := { before.files with workingDirectory := job.own.directory } }
      changeJob process fun job ↦ { job with progress := .running }
      let result ← Run.attempt (finish fuel (evaluate fuel { isLast := true } job.script))
      let after ← get
      set { after with
        own := before.own
        clock := before.clock
        deadline := before.deadline
        files := { after.files with workingDirectory := before.files.workingDirectory } }
      let note := fun (how : Ended) (time : Nat) ↦
        changeJob process fun job ↦ { job with progress := .ended how time }
      match result with
      | .error (.signal signal) =>
        let time := match job.own.end? with
          | some (time, _) => max time job.started
          | none => after.clock
        note (.stopped signal) time
      | .error .timeout | .error .endless =>
        match job.own.end?, remainder with
        | some (time, signal), _ => note (.stopped signal) (max time job.started)
        | none, .awaited =>
          note .expired before.deadline
          modify fun state ↦ { state with clock := before.deadline }
          throw .timeout
        | none, .undone _ => set before
        | none, .kept time => note .expired time
      | _ => note (.exited (after.own.status % 256)) after.clock

/-- Jobs are awaited: all of the shell, or some. -/
def waitFor : Nat → List Bytes → Run Unit
  | 0, _ => throw .endless
  | fuel + 1, arguments => do
    let (_, names) ← lettersOf "" arguments
    let process := (← own).process
    match names with
    | [] =>
      for job in (← get).jobs do
        if job.parent = process then
          settle fuel job.process .awaited
          let _ ← awaitJob job.process
    | names =>
      for name in names do
        let target ← if name.head? = some (byte '%') then do
            match ← jobNamed? name with
            | some target => pure target
            | none => giveUp (bytes "No such job: " ++ name)
          else numberIn name
        let isMine := (← get).jobs.any fun job ↦ job.process == target && job.parent == process
        if !isMine then endWith 127
        else
          settle fuel target .awaited
          let before := (← get).clock
          match ← awaitJob target with
          | some how =>
            let isNews := (← get).jobs.any fun job ↦
              job.process == target && !job.isTold &&
                match job.progress with
                | .ended _ time => before ≤ time
                | _ => false
            if isNews then tellEnd how
            changeJob target fun job ↦ { job with isTold := true }
            endWith how.status
          | none => endWith 127

/-- The process becomes a shell. -/
def startShell : Nat → List Bytes → Run Unit
  | 0, _ => throw .endless
  | fuel + 1, words => do
    let state ← get
    changeOwn fun own ↦ own.shellNamed (words.head?.getD []) state
    let run := fun (isLast : Bool) (script : Script) ↦ evaluate fuel { isLast } script
    finish fuel do
      let (runsText, operands) ← shellOptionsOf (words.length + 1) false (words.drop 1)
      let begin := fun (name : Option Bytes) (arguments : List Bytes) ↦
        changeOwn fun own ↦ { own with name := name.getD own.name, arguments, line := 1 }
      if runsText then
        match operands with
        | [] => giveUp (bytes "-c requires an argument")
        | text :: rest =>
          begin rest.head? (rest.drop 1)
          let _ ← runText run true text
      else match (← get).has 's', operands with
        | false, path :: rest =>
          match state.files.locate (argument path) with
          | .error fault => refusePath "open" path (readFaultReason fault)
          | .ok _ =>
            begin (some path) rest
            let _ ← runText run false ((state.files.read (argument path)).toOption.getD [])
        | _, operands =>
          begin none operands
          changeOption 's' true
          match state.indexOf 0 with
          | none => return ()
          | some index =>
            match state.readable index with
            | .error _ => return ()
            | .ok content =>
              awaitEnd index
              modify fun state ↦ state.leave index []
              let _ ← runText run false content

end

end CodeRepair.Shell
