import CodeRepair.Shell.Descriptor
import CodeRepair.Shell.Program
import CodeRepair.Shell.Reader

/-!
# Commands of the shell itself

The shell runs some commands itself, because they change it or because they are short.  A mistake in
one of the special ones ends a script; with the others it only decides the status.
-/

namespace CodeRepair.Shell

/-! ## Output and options -/

/-- The shell writes to its output. -/
def write (content : Bytes) : Run Unit := do
  match ← emit 1 content with
  | none => return ()
  | some _ => changeOwn fun own ↦ { own with hasLost := true }

/-- The shell complains if output of a command was lost. -/
def admitFailure : Run Unit := do
  let own ← own
  if own.hasLost then
    changeOwn fun own ↦ { own with hasLost := false }
    complain (own.called.getD [] ++ bytes ": I/O error")
    endWith (if own.status = 0 then 1 else own.status)

/-- A line of output. -/
def writeLine (content : Bytes) : Run Unit :=
  write (content ++ [lineEnd])

/-- The options among arguments: their letters with their values, and the arguments behind them.  A
letter has a value if a colon follows it among the known ones. -/
def takeLetters (known : List Char) : Nat → List Bytes → Run (List (Char × Bytes) × List Bytes)
  | 0, arguments => return ([], arguments)
  | fuel + 1, arguments =>
    match arguments with
    | [] => return ([], [])
    | argument :: rest =>
      if argument = bytes "--" then return ([], rest)
      else if argument.head? = some (byte '-') && 1 < argument.length then
        let rec scan : Bytes → Run (List (Char × Bytes) × Bool)
          | [] => return ([], false)
          | b :: others => do
            let letter := Char.ofNat b.toNat
            match known.dropWhile (· != letter) with
            | _ :: ':' :: _ =>
              if !others.isEmpty then return ([(letter, others)], false)
              else match rest.head? with
                | some value => return ([(letter, value)], true)
                | none => giveUp (bytes "No arg for -" ++ [b] ++ bytes " option")
            | _ :: _ =>
              if letter = ':' then giveUp (bytes "Illegal option -" ++ [b])
              let (found, usesNext) ← scan others
              return ((letter, []) :: found, usesNext)
            | [] => giveUp (bytes "Illegal option -" ++ [b])
        do
          let (found, usesNext) ← scan (argument.drop 1)
          let (others, rest) ← takeLetters known fuel (if usesNext then rest.drop 1 else rest)
          return (found ++ others, rest)
      else return ([], arguments)

/-- The options among arguments, and the arguments behind them. -/
def lettersOf (known : String) (arguments : List Bytes) : Run (List (Char × Bytes) × List Bytes) :=
  takeLetters known.toList (arguments.length + 1) arguments

/-- The number that an argument is. -/
def numberIn (argument : Bytes) : Run Nat := do
  if argument.isEmpty || !argument.all isDecimal || 2147483647 < number 10 argument then
    giveUp (bytes "Illegal number: " ++ argument)
  else return number 10 argument

/-- A text in quotation marks that the shell can read. -/
def requoted : Nat → Bytes → Bytes
  | 0, text => text
  | fuel + 1, text =>
    let isMark := fun (b : UInt8) ↦ b == byte '\x27'
    let plain := text.takeWhile fun b ↦ !isMark b
    let marks := (text.drop plain.length).takeWhile isMark
    let rest := text.drop (plain.length + marks.length)
    let first := byte '\x27' :: plain ++ [byte '\x27'] ++
      if marks.isEmpty then [] else byte '"' :: marks ++ [byte '"']
    if rest.isEmpty then first else first ++ requoted fuel rest

/-- A text in quotation marks that the shell can read. -/
def inMarks (text : Bytes) : Bytes :=
  requoted (text.length + 1) text

/-! ## Variables -/

/-- The name and the value in an argument that sets a variable. -/
def splitSetting (setting : Bytes) : Bytes × Option Bytes :=
  let name := setting.takeWhile (· != byte '=')
  (name, if name.length < setting.length then some (setting.drop (name.length + 1)) else none)

/-- The variable that an argument names. -/
def nameIn (name : Bytes) : Run Text := do
  let text := argument name
  if isName text then return text else giveUp (name ++ bytes ": bad variable name")

/-- A variable is marked. -/
def markVariable (name : Text) (f : Cell → Cell) : Run Unit := do
  let cell := ((← get).cell? name).getD ⟨none, false, false⟩
  changeOwn fun own ↦ { own with store := putCell name (f cell) own.store }

/-- Entries in the order of their names. -/
def byName (entries : List (Text × Bytes)) : List (Text × Bytes) :=
  entries.mergeSort fun a b ↦ compareBytes (Text.encode a.1) (Text.encode b.1) != .gt

/-- Variables are marked and perhaps set, or those that are marked are listed. -/
def markVariables (name : String) (isMarked : Cell → Bool) (mark : Cell → Cell)
    (arguments : List Bytes) : Run Unit := do
  let (letters, arguments) ← lettersOf "p" arguments
  if arguments.isEmpty || !letters.isEmpty then
    let marked := (← own).store.filter fun entry ↦ isMarked entry.2
    let line := fun (name' : Text) (value : Option Bytes) ↦
      bytes name ++ bytes " " ++ Text.encode name' ++
        match value with
        | some value => byte '=' :: inMarks value
        | none => []
    for entry in marked.mergeSort fun a b ↦ compareBytes (Text.encode a.1) (Text.encode b.1) != .gt do
      writeLine (line entry.1 entry.2.value)
  else
    for setting in arguments do
      let (name, value) := splitSetting setting
      let name ← nameIn name
      match value with
      | some value => setVariable name value false
      | none => pure ()
      markVariable name mark

/-- A variable is forgotten. -/
def unsetVariable (name : Text) : Run Unit := do
  if (((← get).cell? name).map Cell.fixed).getD false then
    giveUp (Text.encode name ++ bytes ": is read only")
  else changeOwn fun own ↦ { own with store := own.store.filter fun entry ↦ entry.1 != name }

/-- Variables or functions are forgotten. -/
def unset (arguments : List Bytes) : Run Unit := do
  let (letters, arguments) ← lettersOf "vf" arguments
  let wantsFunction := (letters.getLast?.map fun entry ↦ entry.1 == 'f').getD false
  for name in arguments do
    let text := argument name
    if wantsFunction then
      changeOwn fun own ↦ { own with functions := own.functions.filter fun entry ↦ entry.1 != text }
    else unsetVariable (← nameIn name)

/-- Variables belong to the function that is running. -/
def localize (arguments : List Bytes) : Run Unit := do
  if (← own).calls = 0 then giveUp (bytes "not in a function")
  for setting in arguments do
    if setting = bytes "-" then
      changeOwn fun own ↦
        match own.keptOptions with
        | none :: others => { own with keptOptions := some own.options :: others }
        | _ => own
    else
      let (name, value) := splitSetting setting
      let name ← nameIn name
      keepVariable name
      match value with
      | some value => setVariable name value false
      | none => pure ()

/-! ## Options of the shell -/

/-- The options of the shell, by their letters and names, in the order in which they are listed. -/
def shellOptions : List (Char × String) :=
  [('e', "errexit"), ('f', "noglob"), ('I', "ignoreeof"), ('i', "interactive"), ('m', "monitor"),
    ('n', "noexec"), ('s', "stdin"), ('x', "xtrace"), ('v', "verbose"), ('V', "vi"), ('E', "emacs"),
    ('C', "noclobber"), ('a', "allexport"), ('b', "notify"), ('u', "nounset"), ('p', "privileged"),
    ('\x01', "nolog"), ('\x02', "debug")]

/-- The letters of options in the order in which they are shown. -/
def orderedLetters (letters : List Char) : List Char :=
  ((shellOptions.map Prod.fst).reverse).filter letters.contains

/-- An option is set or not. -/
def changeOption (letter : Char) (isSet : Bool) : Run Unit :=
  changeOwn fun own ↦
    let others := own.options.filter (· != letter)
    { own with options := if isSet then orderedLetters (letter :: others) else others }

/-- The options are listed, for a reader or as commands. -/
def listOptions (asCommands : Bool) : Run Unit := do
  if !asCommands then writeLine (bytes "Current option settings")
  let set := (← own).options
  for option in shellOptions do
    let isSet := set.contains option.1
    writeLine (if asCommands then
        bytes (if isSet then "set -o " else "set +o ") ++ bytes option.2
      else padRight 16 (byte ' ') (bytes option.2) ++ bytes (if isSet then "on" else "off"))

/-- The letters of an argument, one option each.  The name of an option may be the next argument. -/
def changeOptions (isSet : Bool) (next : Option Bytes) : Bytes → Run Bool
  | [] => return false
  | b :: rest => do
    let letter := Char.ofNat b.toNat
    if letter = 'o' then
      match next with
      | none =>
        listOptions !isSet
        let _ ← changeOptions isSet next rest
        return false
      | some name =>
        match shellOptions.find? fun option ↦ bytes option.2 == name with
        | some option =>
          changeOption option.1 isSet
          let _ ← changeOptions isSet next rest
          return true
        | none => giveUp (bytes "Illegal option " ++ bytes (if isSet then "-" else "+") ++ bytes "o " ++ name)
    else if shellOptions.any fun option ↦ option.1 == letter then
      changeOption letter isSet
      changeOptions isSet next rest
    else giveUp (bytes "Illegal option " ++ bytes (if isSet then "-" else "+") ++ [b])

/-- Options are set; the arguments behind them, and whether these replace those of the shell. -/
def readOptions : Nat → List Bytes → Run (List Bytes × Bool)
  | 0, arguments => return (arguments, false)
  | fuel + 1, arguments => do
    match arguments with
    | [] => return ([], false)
    | argument :: rest =>
      if argument = bytes "--" then return (rest, true)
      else if argument = bytes "-" then
        changeOption 'x' false
        changeOption 'v' false
        return (rest, !rest.isEmpty)
      else if (argument.head? = some (byte '-') || argument.head? = some (byte '+')) then
        let usesNext ← changeOptions (argument.head? == some (byte '-')) rest.head? (argument.drop 1)
        readOptions fuel (if usesNext then rest.drop 1 else rest)
      else return (arguments, true)

/-- Options or arguments of the shell are set, or its variables are listed. -/
def setArguments (arguments : List Bytes) : Run Unit := do
  if arguments.isEmpty then
    let valued := (← own).store.filterMap fun entry ↦ entry.2.value.map fun value ↦ (entry.1, value)
    for entry in byName valued do
      writeLine (Text.encode entry.1 ++ [byte '='] ++ inMarks entry.2)
  else
    let (arguments, replaces) ← readOptions (arguments.length + 1) arguments
    if replaces then changeOwn fun own ↦ { own with arguments, letters := 0 }

/-- Arguments of the shell are dropped. -/
def shift (arguments : List Bytes) : Run Unit := do
  let count ← match arguments with
    | first :: _ => numberIn first
    | [] => pure 1
  if (← own).arguments.length < count then giveUp (bytes "can\x27t shift that many")
  else changeOwn fun own ↦ { own with arguments := own.arguments.drop count, letters := 0 }

/-! ## Leaving -/

/-- The shell ends. -/
def leaveShell (arguments : List Bytes) : Run Unit := do
  match arguments with
  | first :: _ => endWith (← numberIn first)
  | [] => endWith ((← own).statusBefore)
  throw .exit

/-- A function or a script ends. -/
def leaveFunction (arguments : List Bytes) : Run Unit := do
  match arguments with
  | first :: _ => endWith (← numberIn first)
  | [] => endWith ((← own).statusBefore)
  throw .leaveFunction

/-- Some loops go on or end. -/
def leaveLoops (flow : Nat → Flow) (arguments : List Bytes) : Run Unit := do
  let count ← match arguments with
    | first :: _ => numberIn first
    | [] => pure 1
  if count = 0 then giveUp (bytes "Illegal number: " ++ arguments.head?.getD [])
  let loops := (← own).loops
  if 0 < loops then throw (flow (min count loops))

/-! ## Directories -/

/-- The names of a path, with those of a directory in front of it unless it begins at the root. -/
def plainNames (base : Path) (path : Path) : List Text :=
  let whole := if path.head? = some '/' then path else base ++ '/' :: path
  (Path.names whole).foldl (fun names name ↦
    if name.isEmpty || name = ['.'] then names
    else if name = ['.', '.'] then names.dropLast
    else names ++ [name]) []

/-- The shell goes to a directory. -/
def enter (isPhysical : Bool) (path : Path) : Run Bool := do
  let state ← get
  let target := if isPhysical then path else Location.path (plainNames state.own.path path)
  match state.files.locate target with
  | .ok (location, .directory) =>
    let shown := if isPhysical then Location.path location
      else if (['/', '/']).isPrefixOf path && path[2]? != some '/' then '/' :: target else target
    set { state with files := { state.files with workingDirectory := location } }
    setVariable "OLDPWD".toList (Text.encode state.own.path) true
    changeOwn fun own ↦ { own with path := shown, directory := location }
    setVariable "PWD".toList (Text.encode shown) true
    return true
  | _ => return false

/-- The shell goes to a directory, or says that it cannot. -/
def changeDirectory (arguments : List Bytes) : Run Unit := do
  let (letters, arguments) ← lettersOf "LP" arguments
  let isPhysical := (letters.getLast?.map fun entry ↦ entry.1 == 'P').getD false
  let state ← get
  let goesBack := arguments.head? = some (bytes "-")
  let wanted := if goesBack then (state.valueOf? "OLDPWD".toList).getD []
    else match arguments with
      | first :: _ => first
      | [] => (state.valueOf? "HOME".toList).getD []
  let target := if wanted.isEmpty then bytes "." else wanted
  let isSearched := target.head? != some (byte '/') && !(bytes "./").isPrefixOf target &&
    !(bytes "../").isPrefixOf target && target != bytes "." && target != bytes ".."
  let places := if isSearched then
      (state.valueOf? "CDPATH".toList).map fun value ↦ cutAt (byte ':') value
    else none
  let candidates := ((places.getD []).map fun (place : Bytes) ↦
    if place.isEmpty then (target, false)
    else (if place.getLast? = some (byte '/') then place ++ target else place ++ byte '/' :: target, true)) ++
    [(target, false)]
  let found := candidates.find? fun candidate ↦ state.files.isDirectory (argument candidate.1)
  let (path, isTold) := found.getD (target, false)
  if ← enter isPhysical (argument path) then
    if goesBack || isTold then writeLine (Text.encode (← own).path)
  else giveUp (bytes "can\x27t cd to " ++ wanted)

/-- The working directory. -/
def tellDirectory (arguments : List Bytes) : Run Unit := do
  let (letters, _) ← lettersOf "LP" arguments
  let own ← own
  if (letters.getLast?.map fun entry ↦ entry.1 == 'P').getD false then
    writeLine (Text.encode (Location.path own.directory))
  else writeLine (Text.encode own.path)

/-! ## Input -/

/-- The bytes of a line that is read, each with whether it may separate words, whether the line has an
end, and the rest.  A backslash protects the next byte unless it is meant as it is. -/
def readLineBytes (isRaw : Bool) : Bytes → List (UInt8 × Bool) × Bool × Bytes
  | [] => ([], false, [])
  | b :: rest =>
    if b == lineEnd then ([], true, rest)
    else if b == byte '\\' && !isRaw then
      match rest with
      | [] => ([], false, [])
      | c :: rest =>
        let (line, isWhole, left) := readLineBytes isRaw rest
        (if c == lineEnd then line else (c, false) :: line, isWhole, left)
    else
      let (line, isWhole, left) := readLineBytes isRaw rest
      (if b == 0 then line else (b, true) :: line, isWhole, left)

/-- The texts that so many variables get from a line. -/
def wordsFor (separators : Bytes) : Nat → List (UInt8 × Bool) → List Bytes
  | 0, _ => []
  | count + 1, line =>
    let isBlank := fun (b : UInt8) ↦ b == 0x20 || b == 0x09 || b == lineEnd
    let separates := fun (entry : UInt8 × Bool) ↦ entry.2 && separators.contains entry.1
    let skips := fun (entry : UInt8 × Bool) ↦ separates entry && isBlank entry.1
    let line := line.dropWhile skips
    let word := line.takeWhile fun entry ↦ !separates entry
    let rest := (line.drop word.length).dropWhile skips
    let behind := if (rest.head?.map separates).getD false then (rest.drop 1).dropWhile skips else rest
    if count = 0 then
      if behind.isEmpty then [word.map Prod.fst]
      else [((line.reverse.dropWhile skips).reverse).map Prod.fst]
    else word.map Prod.fst :: wordsFor separators count behind

/-- A line of the input in variables. -/
def readVariables (arguments : List Bytes) : Run Unit := do
  let (letters, names) ← lettersOf "p:r" arguments
  if names.isEmpty then giveUp (bytes "arg count")
  let isRaw := letters.any fun entry ↦ entry.1 == 'r'
  let state ← get
  let (line, isWhole) ← match state.indexOf 0 with
    | none => pure ([], false)
    | some index =>
      match state.readable index with
      | .error _ => pure ([], false)
      | .ok content => do
        let (line, isWhole, left) := readLineBytes isRaw content
        set (state.leave index left)
        if !isWhole then awaitEnd index
        pure (line, isWhole)
  let words := wordsFor state.separators names.length line
  for entry in names.zip (words ++ List.replicate (names.length - words.length) []) do
    setVariable (← nameIn entry.1) entry.2 false
  endWith (if isWhole then 0 else 1)

/-- The next option among arguments. -/
def nextOption (arguments : List Bytes) : Run Unit := do
  match arguments with
  | known :: name :: given =>
    let state ← get
    let words := if given.isEmpty then state.own.arguments else given
    let index := (integer ((state.valueOf? "OPTIND".toList).getD (bytes "1"))).toNat
    let index := max index 1
    let isQuiet := known.head? = some (byte ':')
    let finish := fun (index letters : Nat) (letter : Bytes) (status : Nat) ↦ (do
      setVariable "OPTIND".toList (ofNatural index) false
      setVariable (← nameIn name) letter false
      changeOwn fun own ↦ { own with letters }
      endWith status : Run Unit)
    let current := (words[index - 2]?).getD []
    let begun := if 1 < index && 0 < state.own.letters && state.own.letters ≤ current.length then
        current.drop state.own.letters
      else []
    let next : Option (Bytes × Nat) :=
      if !begun.isEmpty then some (begun, index)
      else match words[index - 1]? with
        | some word =>
          if word.head? = some (byte '-') && 1 < word.length then
            if word = bytes "--" then none else some (word.drop 1, index + 1)
          else none
        | none => none
    match next with
    | none =>
      let isEnd := begun.isEmpty && words[index - 1]? = some (bytes "--")
      finish (if isEnd then index + 1 else index) 0 (bytes "?") 1
    | some (letters, index) =>
      let letter := letters.take 1
      let rest := letters.drop 1
      let place := fun (rest : Bytes) ↦
        if rest.isEmpty then 0 else ((words[index - 2]?).getD []).length - rest.length
      let tail := known.dropWhile fun b ↦ some b != letter.head?
      if tail.isEmpty || letter = bytes ":" then
        if isQuiet then setVariable "OPTARG".toList letter false
        else
          let _ ← emit 2 (bytes "Illegal option -" ++ letter ++ [lineEnd])
          unsetVariable "OPTARG".toList
        finish index (place rest) (bytes "?") 0
      else if (tail.drop 1).head? = some (byte ':') then
        if !rest.isEmpty then
          setVariable "OPTARG".toList rest false
          finish index 0 letter 0
        else match words[index - 1]? with
          | some value =>
            setVariable "OPTARG".toList value false
            finish (index + 1) 0 letter 0
          | none =>
            if isQuiet then
              setVariable "OPTARG".toList letter false
              finish index 0 (bytes ":") 0
            else
              let _ ← emit 2 (bytes "No arg for -" ++ letter ++ bytes " option\n")
              unsetVariable "OPTARG".toList
              finish index 0 (bytes "?") 0
      else
        setVariable "OPTARG".toList [] false
        finish index (place rest) letter 0
  | _ => giveUp (bytes "Usage: getopts optstring var [arg...]")

/-! ## Messages and tests -/

/-- What `printf` writes. -/
def writeFormatted (arguments : List Bytes) : Run Unit := do
  let (_, arguments) ← lettersOf "" arguments
  match arguments with
  | [] => giveUp (bytes "usage: printf format [arg ...]")
  | pattern :: rest =>
    let printed := printf .shell pattern rest
    for complaint in printed.complaints do
      complain complaint
    endWith (if printed.failed then (if printed.ended then 2 else 1) else 0)
    write printed.output

/-- Whether a condition holds. -/
def judge (arguments : List Bytes) : Run Unit := do
  let state ← get
  match condition .shell state.view (state.own.called.getD []) arguments with
  | .ok status => endWith status
  | .error message => giveUp message

/-! ## Signals -/

/-- The signal that a word names, by its number or its name. -/
def signalIn? (least : Nat) (word : Bytes) : Option Nat :=
  if !word.isEmpty && word.all isDecimal then
    let n := number 10 word
    if least ≤ n && n ≤ 64 then some n else none
  else if word.map toCapital = bytes "EXIT" then (if least = 0 then some 0 else none)
  else
    (signalNames.find? fun entry ↦ bytes entry.1 == word.map toCapital).map Prod.snd

/-- The name of a signal. -/
def signalName (signal : Nat) : Bytes :=
  if signal = 0 then bytes "EXIT"
  else match signalNames.find? fun entry ↦ entry.2 == signal && entry.1 != "STKFLT" with
    | some entry => bytes entry.1
    | none =>
      if signal = 34 then bytes "RTMIN"
      else if 34 < signal && signal ≤ 49 then bytes "RTMIN+" ++ ofNatural (signal - 34)
      else if signal = 64 then bytes "RTMAX"
      else if 49 < signal && signal < 64 then bytes "RTMAX-" ++ ofNatural (64 - signal)
      else ofNatural signal

/-- What is said about a process that a signal stopped. -/
def signalText (signal : Nat) : Bytes :=
  let known : List (Nat × String) :=
    [(1, "Hangup"), (3, "Quit"), (4, "Illegal instruction"), (5, "Trace/breakpoint trap"), (6, "Aborted"),
      (7, "Bus error"), (8, "Floating point exception"), (9, "Killed"), (10, "User defined signal 1"),
      (11, "Segmentation fault"), (12, "User defined signal 2"), (14, "Alarm clock"), (15, "Terminated"),
      (16, "Stack fault"), (24, "CPU time limit exceeded"), (25, "File size limit exceeded"),
      (26, "Virtual timer expired"), (27, "Profiling timer expired"), (29, "I/O possible"),
      (30, "Power failure"), (31, "Bad system call")]
  match known.find? fun entry ↦ entry.1 == signal with
  | some entry => bytes entry.2
  | none => bytes "Real-time signal " ++ ofNatural (signal - 34)

/-- What is run when signals arrive. -/
def setTraps (arguments : List Bytes) : Run Unit := do
  let (_, arguments) ← lettersOf "" arguments
  match arguments with
  | [] =>
    let traps := (← own).traps.mergeSort fun a b ↦ a.1 ≤ b.1
    for trap in traps do
      writeLine (bytes "trap -- " ++ inMarks trap.2 ++ [byte ' '] ++ signalName trap.1)
  | first :: others =>
    let (action, words) := if others.isEmpty then (none, [first])
      else (if first = bytes "-" then none else some first, others)
    for word in words do
      match signalIn? 0 word with
      | some signal =>
        changeOwn fun own ↦
          let traps := own.traps.filter fun trap ↦ trap.1 != signal
          { own with
            traps := match action with
              | some action => traps ++ [(signal, action)]
              | none => traps }
      | none =>
        let _ ← emit 2 (bytes "trap: " ++ word ++ bytes ": bad trap\n")
        endWith 1
        break

/-- Whether a signal does nothing to a process that has not asked for it. -/
def isHarmless (signal : Nat) : Bool :=
  signal = 0 || signal = 17 || signal = 18 || signal = 23 || signal = 28

/-- A signal reaches the process that is running. -/
def receive (signal : Nat) : Run Unit := do
  match (← own).traps.find? fun trap ↦ trap.1 == signal && signal != 9 with
  | some (_, action) =>
    if !action.isEmpty then changeOwn fun own ↦ { own with noticed := own.noticed ++ [signal] }
  | none =>
    if isHarmless signal then return ()
    else if signal = 19 || signal = 20 || signal = 21 || signal = 22 then throw .endless
    else throw (.signal signal)

/-- The process of a job by its number in the list of jobs. -/
def jobNamed? (word : Bytes) : Run (Option Nat) := do
  let state ← get
  let mine := state.jobs.filter fun job ↦ job.parent == state.own.process
  let name := word.drop 1
  if name.isEmpty || name = bytes "%" || name = bytes "+" then return mine.getLast?.map Job.process
  else if name.all isDecimal then return (mine[number 10 name - 1]?).map Job.process
  else return none

/-- A signal is sent to a process; whether there is one. -/
def send (signal process : Nat) : Run Bool := do
  let state ← get
  if process = state.own.process then
    receive signal
    return true
  else if state.jobs.any fun job ↦ job.process == process && job.progress == .waiting then
    set { state with jobs := state.jobs.map fun (job : Job) ↦
      if job.process == process then
        { job with own := { job.own with arriving := job.own.arriving ++ [(state.clock, signal)] } }
      else job }
    return true
  else if state.own.ancestors.contains process then
    set { state with sent := state.sent ++ [(process, signal)] }
    return true
  else return false

/-- How `kill` is used. -/
def killUsage : Bytes :=
  bytes "Usage: kill [-s sigspec | -signum | -sigspec] [pid | job]... or\nkill -l [exitstatus]"

/-- Signals are sent to processes. -/
def kill (arguments : List Bytes) : Run Unit := do
  let direct := match arguments with
    | (hyphen :: name) :: rest =>
      if hyphen = byte '-' then (signalIn? 0 name).map fun signal ↦ (signal, rest) else none
    | _ => none
  let (signal, lists, targets) ← match direct with
    | some (signal, rest) => pure (some signal, false, rest)
    | none => do
      let (letters, rest) ← lettersOf "ls:" arguments
      let named := (letters.filter fun entry ↦ entry.1 == 's').getLast?
      let signal ← match named with
        | some (_, word) =>
          match signalIn? 0 word with
          | some signal => pure (some signal)
          | none => giveUp (bytes "invalid signal number or name: " ++ word)
        | none => pure none
      pure (signal, letters.any fun entry ↦ entry.1 == 'l', rest)
  if lists then
    match targets with
    | [] =>
      writeLine (bytes "0")
      for n in List.range 64 do
        writeLine (if n + 1 = 16 || n + 1 = 32 || n + 1 = 33 then ofNatural (n + 1) else signalName (n + 1))
    | first :: _ =>
      let n ← numberIn first
      let n := if 128 < n then n - 128 else n
      if 0 < n && n ≤ 64 then writeLine (signalName n)
      else giveUp (bytes "invalid signal number or exit status: " ++ first)
  else if targets.isEmpty then giveUp killUsage
  else
    for target in targets do
      let process ← if target.head? = some (byte '%') then do
          match ← jobNamed? target with
          | some _ => pure 0
          | none => giveUp (bytes "No such job: " ++ target)
        else numberIn (if target.head? = some (byte '-') then target.drop 1 else target)
      if !(← send (signal.getD 15) process) then
        complain (bytes "No such process\n")
        endWith 1

/-! ## What commands are -/

/-- What is known about a name as a command. -/
inductive Meaning
  | keyword
  | shorthand (value : Text)
  | function
  | special
  | regular
  | program (path : Path)
  | unknown

/-- The names of the special commands of the shell. -/
def specialCommands : List String :=
  [".", ":", "break", "continue", "eval", "exec", "exit", "export", "local", "readonly", "return", "set",
    "shift", "times", "trap", "unset"]

/-- The names of the other commands of the shell. -/
def regularCommands : List String :=
  ["[", "alias", "bg", "cd", "command", "echo", "false", "fg", "getopts", "hash", "jobs", "kill", "printf",
    "pwd", "read", "test", "true", "type", "ulimit", "umask", "unalias", "wait"]

/-- Whether a name is in a list. -/
def isAmong (names : List String) (name : Bytes) : Bool :=
  names.any fun other ↦ bytes other == name

/-- Where programs are searched. -/
def State.searched (state : State) : Bytes :=
  (state.valueOf? "PATH".toList).getD (bytes "/usr/local/sbin:/usr/local/bin:/usr/sbin:/usr/bin:/sbin:/bin")

/-- What a name means as a command. -/
def meaningOf (name : Bytes) : Run Meaning := do
  let state ← get
  let text := argument name
  if keywords.contains text then return .keyword
  else match state.own.aliases.find? fun entry ↦ entry.name == text with
    | some entry => return .shorthand entry.value
    | none =>
      if state.own.functions.any fun entry ↦ entry.1 == text then return .function
      else if isAmong specialCommands name then return .special
      else if isAmong regularCommands name then return .regular
      else match findExecutable state.files state.searched text with
        | .ok (path, _) => return .program path
        | .error _ => return .unknown

/-- What a name means is told. -/
def describe (name : Bytes) : Run Bool := do
  let tell := fun (what : Bytes) ↦ (do
    writeLine (name ++ what)
    return true : Run Bool)
  match ← meaningOf name with
  | .keyword => tell (bytes " is a shell keyword")
  | .shorthand value => tell (bytes " is an alias for " ++ Text.encode value)
  | .function => tell (bytes " is a shell function")
  | .special => tell (bytes " is a special shell builtin")
  | .regular => tell (bytes " is a shell builtin")
  | .program path =>
    let hashed := (← own).hashed.contains name
    tell (bytes (if hashed then " is a tracked alias for " else " is ") ++ Text.encode path)
  | .unknown =>
    writeLine (name ++ bytes ": not found")
    return false

/-- What names mean is told. -/
def describeAll (arguments : List Bytes) : Run Unit := do
  let (_, names) ← lettersOf "" arguments
  let known ← names.mapM describe
  endWith (if known.all id then 0 else 127)

/-- How a name is spelled as a command, or nothing. -/
def spell (name : Bytes) : Run Unit := do
  match ← meaningOf name with
  | .shorthand value => writeLine (bytes "alias " ++ name ++ [byte '='] ++ inMarks (Text.encode value))
  | .program path => writeLine (Text.encode path)
  | .unknown => endWith 127
  | _ => writeLine name

/-- Aliases are set or listed. -/
def setAliases (arguments : List Bytes) : Run Unit := do
  let line := fun (entry : Alias) ↦
    writeLine (Text.encode entry.name ++ [byte '='] ++ inMarks (Text.encode entry.value))
  if arguments.isEmpty then
    for entry in (← own).aliases do line entry
  else
    for setting in arguments do
      let (name, value) := splitSetting setting
      let text := argument name
      match value with
      | some value =>
        changeOwn fun own ↦ { own with
          aliases := (own.aliases.filter fun entry ↦ entry.name != text) ++ [⟨text, argument value⟩] }
      | none =>
        match (← own).aliases.find? fun entry ↦ entry.name == text with
        | some entry => line entry
        | none =>
          let _ ← emit 2 (bytes "alias: " ++ name ++ bytes " not found\n")
          endWith 1

/-- Aliases are dropped. -/
def dropAliases (arguments : List Bytes) : Run Unit := do
  let (letters, names) ← lettersOf "a" arguments
  if !letters.isEmpty then changeOwn fun own ↦ { own with aliases := [] }
  for name in names do
    let text := argument name
    if (← own).aliases.any fun entry ↦ entry.name == text then
      changeOwn fun own ↦ { own with aliases := own.aliases.filter fun entry ↦ entry.name != text }
    else
      let _ ← emit 2 (bytes "unalias: " ++ name ++ bytes " not found\n")
      endWith 1

/-- Names of programs are looked up. -/
def hash (arguments : List Bytes) : Run Unit := do
  let (_, names) ← lettersOf "rv" arguments
  for name in names do
    match ← meaningOf name with
    | .unknown =>
      complain (name ++ bytes ": not found")
      endWith 1
    | _ => changeOwn fun own ↦ { own with hashed := name :: own.hashed }

/-- The letters of the permissions that three bits allow. -/
def allowed (bits : Nat) : Bytes :=
  (if Nat.land bits 4 = 0 then bytes "r" else []) ++ (if Nat.land bits 2 = 0 then bytes "w" else []) ++
    if Nat.land bits 1 = 0 then bytes "x" else []

/-- The permissions that new files lack. -/
def mask (arguments : List Bytes) : Run Unit := do
  let (letters, arguments) ← lettersOf "S" arguments
  let mask := (← own).mask
  match arguments with
  | [] =>
    writeLine (if letters.isEmpty then
        padLeft 4 (byte '0') ((Nat.toDigits 8 mask).map byte)
      else bytes "u=" ++ allowed (mask / 64) ++ bytes ",g=" ++ allowed (mask / 8 % 8) ++ bytes ",o=" ++
        allowed (mask % 8))
  | first :: _ =>
    if first.all isOctal then changeOwn fun own ↦ { own with mask := number 8 first % 512 }
    else if (first.head?.map isDecimal).getD false then giveUp (bytes "Illegal number: " ++ first)
    else if !first.contains (byte '=') && !first.contains (byte '+') && !first.contains (byte '-') then
      giveUp (bytes "Illegal mode: " ++ first)

/-- The limits of what the shell may use. -/
def limits (arguments : List Bytes) : Run Unit := do
  let (letters, values) ← lettersOf "HSatfdscmlpnvwr" arguments
  if values.isEmpty then
    writeLine (if letters.any fun entry ↦ entry.1 == 'n' then bytes "1048576"
      else if letters.any fun entry ↦ entry.1 == 's' then bytes "8192" else bytes "unlimited")

/-- How long the shell has worked. -/
def times (_ : List Bytes) : Run Unit := do
  writeLine (bytes "0m0.000000s 0m0.000000s")
  writeLine (bytes "0m0.000000s 0m0.000000s")

/-- How far a job has come. -/
def Progress.text : Progress → Bytes
  | ended (.exited 0) _ => bytes "Done"
  | ended (.exited status) _ => bytes "Done(" ++ ofNatural status ++ bytes ")"
  | ended (.stopped signal) _ => signalText signal
  | _ => bytes "Running"

/-- The jobs of the shell, of which those that have ended are forgotten. -/
def listJobs (_ : List Bytes) : Run Unit := do
  let state ← get
  let mine := state.jobs.filter fun job ↦ job.parent == state.own.process
  for entry in mine.zip (List.range mine.length) do
    let mark := if entry.2 + 1 = mine.length then " + "
      else if entry.2 + 2 = mine.length then " - " else "   "
    writeLine (padRight 33 (byte ' ')
      (bytes "[" ++ ofNatural (entry.2 + 1) ++ bytes "]" ++ bytes mark ++ entry.1.progress.text))
  modify fun state ↦ { state with
    jobs := state.jobs.filter fun job ↦
      job.parent != state.own.process || job.progress == .waiting || job.progress == .running }

/-- The shell has no job to go on with. -/
def noJob (_ : List Bytes) : Run Unit :=
  giveUp (bytes "No current job")

/-- The commands of the shell that run no other commands. -/
def plainCommands : List (String × (List Bytes → Run Unit)) :=
  [(":", fun _ ↦ endWith 0), ("[", judge), ("alias", setAliases), ("bg", noJob),
    ("break", leaveLoops .leaveLoop), ("cd", changeDirectory), ("continue", leaveLoops .nextTurn),
    ("echo", fun arguments ↦ write (echo .shell arguments)), ("exit", leaveShell),
    ("export", markVariables "export" Cell.exported fun cell ↦ { cell with exported := true }),
    ("false", fun _ ↦ endWith 1), ("fg", noJob), ("getopts", nextOption), ("hash", hash),
    ("jobs", listJobs), ("kill", kill), ("local", localize), ("printf", writeFormatted),
    ("pwd", tellDirectory), ("read", readVariables),
    ("readonly", markVariables "readonly" Cell.fixed fun cell ↦ { cell with fixed := true }),
    ("return", leaveFunction), ("set", setArguments), ("shift", shift), ("test", judge),
    ("times", times), ("trap", setTraps), ("true", fun _ ↦ endWith 0), ("type", describeAll),
    ("ulimit", limits), ("umask", mask), ("unalias", dropAliases), ("unset", unset)]

end CodeRepair.Shell
