import CodeRepair.Shell.Condition

/-!
# Utilities

A utility reads its arguments, its input and files; it writes output and error output, changes files
and ends with a status.  Most utilities gather their output and write it when they end, behind what
they complain about.
-/

namespace CodeRepair.Shell

/-- What a utility is run with. -/
structure Call where
  /-- What it was called. -/
  name : Bytes
  arguments : List Bytes
  environment : List (Text × Bytes) := []
  /-- What its descriptors lead to. -/
  descriptors : List (Nat × FileKind) := []
  /-- What can be read from its input. -/
  input : Except FileFault Bytes

/-- Something written, to the output or to the error output. -/
structure Written where
  isError : Bool
  content : Bytes
  deriving Repr

/-- What a utility has done. -/
structure Effect where
  /-- What it wrote, the last part first. -/
  written : List Written := []
  status : Nat := 0
  files : FileSystem
  /-- The input that it has not read. -/
  input : Bytes := []
  /-- Whether it has seen the end of its input. -/
  drains : Bool := false
  /-- Whether it writes its output as soon as it has it. -/
  isPrompt : Bool := false
  /-- Whether it does not come to an end as long as its output is read. -/
  isEndless : Bool := false

/-- The work of a utility, which it may break off. -/
abbrev Work := ReaderT Call (ExceptT Unit (StateM Effect))

/-- A utility. -/
abbrev Utility := Work Unit

namespace Work

/-- Output. -/
def put (content : Bytes) : Work Unit :=
  modify fun effect ↦ { effect with written := ⟨false, content⟩ :: effect.written }

/-- A line of output. -/
def putLine (content : Bytes) : Work Unit :=
  put (content ++ [lineEnd])

/-- Error output. -/
def putError (content : Bytes) : Work Unit :=
  modify fun effect ↦ { effect with written := ⟨true, content⟩ :: effect.written }

/-- The utility ends with a status unless it says something else later. -/
def setStatus (status : Nat) : Work Unit :=
  modify fun effect ↦ { effect with status }

/-- The utility breaks off. -/
def quit {α : Type} (status : Nat) : Work α := do
  setStatus status
  throw ()

/-- A complaint. -/
def warn (message : Bytes) : Work Unit := do
  putError ((← read).name ++ bytes ": " ++ message ++ [lineEnd])

/-- A complaint that decides the status. -/
def blame (status : Nat) (message : Bytes) : Work Unit := do
  warn message
  setStatus status

/-- A complaint behind which the utility breaks off. -/
def fail {α : Type} (status : Nat) (message : Bytes) : Work α := do
  warn message
  quit status

/-- The utilities that put their name in front of an advice too. -/
def advisersByName : List String := ["cmp", "diff"]

/-- A complaint about the arguments behind which the utility breaks off. -/
def misuse {α : Type} (status : Nat) (message : Bytes) : Work α := do
  let name := (← read).name
  warn message
  if advisersByName.any fun adviser ↦ bytes adviser == name then putError (name ++ bytes ": ")
  putError (bytes "Try \x27" ++ name ++ bytes " --help\x27 for more information.\n")
  quit status

/-- All that is left of the input. -/
def readInput : Work (Except FileFault Bytes) := do
  match (← read).input with
  | .error fault => return .error fault
  | .ok _ =>
    let effect ← get
    set { effect with input := [], drains := true }
    return .ok effect.input

/-- The content of what a path leads to; a hyphen stands for the input. -/
def readPath (path : Bytes) : Work (Except FileFault Bytes) := do
  if path = bytes "-" || View.descriptor? path = some 0 then readInput
  else return (← get).files.read (argument path)

/-- The files as conditions see them. -/
def view : Work View := do
  return ⟨(← get).files, (← read).descriptors⟩

/-- What the utility was called. -/
def called : Work Bytes := do return (← read).name

/-- Why nothing can be found at a path, if that is so; the input is always there. -/
def missing? (path : Bytes) : Work (Option FileFault) := do
  if path = bytes "-" || (View.descriptor? path).isSome then return none
  else match (← get).files.locate (argument path) with
    | .error fault => return some fault
    | .ok _ => return none

/-- The files are changed, unless that fails. -/
def change (f : FileSystem → Except FileFault FileSystem) : Work (Option FileFault) := do
  match f (← get).files with
  | .ok files =>
    modify fun effect ↦ { effect with files }
    return none
  | .error fault => return some fault

end Work

/-- What comes of some work, unless it is broken off, and what it does. -/
def Work.perform {α : Type} (work : Work α) (call : Call) (files : FileSystem) : Option α × Effect :=
  let input := call.input.toOption.getD []
  let (result, effect) := (work.run call).run { files, input }
  let written := effect.written.reverse
  (result.toOption, { effect with
    written := if effect.isPrompt then written
      else (written.filter Written.isError) ++ written.filter fun part ↦ !part.isError })

/-! ## Complaints -/

/-- A name in a complaint. -/
def namedIn (name : Bytes) : Bytes :=
  quotedName false name

/-- A complaint about a file. -/
def aboutFile (name : Bytes) (fault : FileFault) : Bytes :=
  namedIn name ++ bytes ": " ++ Text.encode fault.reason

/-! ## Options -/

/-- Whether an option has a value. -/
inductive Taking
  | nothing
  | value
  /-- Only in the same argument. -/
  | perhaps
  deriving DecidableEq, Repr

/-- An option of a utility, by its letter, its word or both. -/
structure OptionKind where
  letter : Option Char
  word : String
  taking : Taking := .nothing

/-- An option without a value. -/
def flag (letter : Char) (word : String) : OptionKind := ⟨some letter, word, .nothing⟩

/-- An option with a value. -/
def taking (letter : Char) (word : String) : OptionKind := ⟨some letter, word, .value⟩

/-- An option without a letter. -/
def long (word : String) : OptionKind := ⟨none, word, .nothing⟩

/-- What an option is asked for by: its letter if it has one. -/
def OptionKind.key (kind : OptionKind) : String :=
  match kind.letter with
  | some letter => letter.toString
  | none => kind.word

/-- The options that were given, and the other arguments. -/
structure Options where
  given : List (String × Bytes) := []
  operands : List Bytes := []

namespace Options

/-- Whether an option was given. -/
def has (options : Options) (key : String) : Bool :=
  options.given.any fun entry ↦ entry.1 == key

/-- The value of the last option of a kind. -/
def value? (options : Options) (key : String) : Option Bytes :=
  (options.given.reverse.find? fun entry ↦ entry.1 == key).map Prod.snd

/-- The values of all options of a kind. -/
def values (options : Options) (key : String) : List Bytes :=
  options.given.filterMap fun entry ↦ if entry.1 == key then some entry.2 else none

/-- Which one of some options was given last. -/
def last? (options : Options) (keys : List String) : Option String :=
  (options.given.reverse.find? fun entry ↦ keys.contains entry.1).map Prod.fst

end Options

/-- One more option. -/
def Options.add (options : Options) (kind : OptionKind) (value : Bytes) : Options :=
  { options with given := options.given ++ [(kind.key, value)] }

/-- The letters of an argument, one option each, up to one that has a value.  The value may be the
next argument, which is then used up. -/
def Options.addLetters (kinds : List OptionKind) (next : Option Bytes) :
    Bytes → Options → Except Bytes (Options × Bool)
  | [], options => .ok (options, false)
  | b :: rest, options =>
    match kinds.find? fun kind ↦ kind.letter.map byte == some b with
    | none => .error (bytes "invalid option -- \x27" ++ [b] ++ bytes "\x27")
    | some kind =>
      if kind.taking = .perhaps && !rest.isEmpty then .ok (options.add kind rest, false)
      else if kind.taking = .value then
        if !rest.isEmpty then .ok (options.add kind rest, false)
        else match next with
          | some value => .ok (options.add kind value, true)
          | none => .error (bytes "option requires an argument -- \x27" ++ [b] ++ bytes "\x27")
      else addLetters kinds next rest (options.add kind [])

/-- An option by its word, of which the beginning is enough. -/
def Options.addWord (kinds : List OptionKind) (next : Option Bytes) (argument : Bytes)
    (options : Options) : Except Bytes (Options × Bool) :=
  let name := argument.takeWhile (· != byte '=')
  let value? := if name.length < argument.length then some (argument.drop (name.length + 1)) else none
  let shown := fun (word : Bytes) ↦ bytes "option \x27--" ++ word ++ bytes "\x27"
  let named := kinds.filter fun kind ↦ kind.word != ""
  let exact := named.filter fun kind ↦ bytes kind.word == name
  let found : List OptionKind :=
    if exact.isEmpty then named.filter fun kind ↦ name.isPrefixOf (bytes kind.word) else exact
  match found with
  | [] => .error (bytes "unrecognized " ++ shown argument)
  | kind :: others =>
    if others.any fun other ↦ other.key != kind.key then
      .error (shown argument ++ bytes " is ambiguous; possibilities:" ++
        found.flatMap fun kind ↦ bytes " \x27--" ++ bytes kind.word ++ bytes "\x27")
    else match kind.taking, value? with
      | .nothing, some _ => .error (shown (bytes kind.word) ++ bytes " doesn\x27t allow an argument")
      | .value, none =>
        match next with
        | some value => .ok (options.add kind value, true)
        | none => .error (shown (bytes kind.word) ++ bytes " requires an argument")
      | _, value => .ok (options.add kind (value.getD []), false)

/-- The options among arguments.  They may stand behind operands, unless the first operand ends
them. -/
def Options.read (kinds : List OptionKind) (stopsEarly : Bool) :
    Nat → List Bytes → Options → Except Bytes Options
  | 0, _, options => .ok options
  | _, [], options => .ok options
  | fuel + 1, argument :: rest, options =>
    let next := fun (result : Except Bytes (Options × Bool)) ↦
      match result with
      | .ok (options, usedNext) => read kinds stopsEarly fuel (if usedNext then rest.drop 1 else rest) options
      | .error message => .error message
    if argument = bytes "--" then .ok { options with operands := options.operands ++ rest }
    else if (bytes "--").isPrefixOf argument then
      next (options.addWord kinds rest.head? (argument.drop 2))
    else if argument.head? = some (byte '-') && 1 < argument.length then
      next (options.addLetters kinds rest.head? (argument.drop 1))
    else if stopsEarly then .ok { options with operands := options.operands ++ argument :: rest }
    else read kinds stopsEarly fuel rest { options with operands := options.operands ++ [argument] }

/-- The options of a utility; a mistake in them ends it with a status. -/
def Work.options (kinds : List OptionKind) (status : Nat) (stopsEarly : Bool) : Work Options := do
  let arguments := (← read).arguments
  match Options.read kinds stopsEarly (arguments.length + 1) arguments {} with
  | .ok options => return options
  | .error message => Work.misuse status message

end CodeRepair.Shell
