import CodeRepair.FileSystem.Operation
import CodeRepair.Shell.Bytes
import CodeRepair.Shell.Script

/-!
# States of shells

Processes share files, open streams and the time; each has variables, functions and descriptors of its
own.  Time passes only while a command sleeps, and when it reaches the deadline everything stops.
What runs in the background is run when it is waited for, when it is stopped or when time passes that
it would have used, as if it had run since it was started.
-/

namespace CodeRepair.Shell

/-- Something that descriptors lead to. -/
inductive Stream
  /-- Bytes that are left to be read from a pipe, and the time when it is known that no more come; none
  if that is never. -/
  | source (left : Bytes) (ends : Option Nat)
  /-- What was written to a pipe and when, the last part first. -/
  | collector (parts : List (Nat × Bytes))
  /-- A place in a file. -/
  | file (location : Location) (offset : Nat) (appends : Bool)
  | device (device : Device)
  | directory
  deriving Repr

/-- A variable. -/
structure Cell where
  value : Option Bytes
  exported : Bool := false
  fixed : Bool := false

/-- What belongs to one process. -/
structure Own where
  /-- What the shell is called. -/
  name : Bytes
  /-- The command of the shell itself that is running, for complaints. -/
  called : Option Bytes := none
  arguments : List Bytes := []
  store : List (Text × Cell) := []
  functions : List (Text × Script) := []
  /-- The letters of the options that are set. -/
  options : List Char := []
  /-- What is run when signals arrive, by their numbers; zero is the end of the shell. -/
  traps : List (Nat × Bytes) := []
  descriptors : List (Nat × Nat) := []
  directory : Location := []
  /-- The path by which the directory was entered. -/
  path : Path := ['/']
  process : Nat
  /-- The process of the shell that it belongs to. -/
  shell : Nat
  line : Nat := 1
  status : Nat := 0
  /-- The status in front of the command of the shell that is running. -/
  statusBefore : Nat := 0
  lastJob : Option Nat := none
  /-- How many loops and how many functions are running. -/
  loops : Nat := 0
  calls : Nat := 0
  /-- The variables that functions and commands will restore, for each of them. -/
  saved : List (List (Text × Option Cell)) := []
  /-- The options that functions will restore, for each of them. -/
  keptOptions : List (Option (List Char)) := []
  /-- How many letters of an argument `getopts` has looked at. -/
  letters : Nat := 0
  /-- The processes that wait for this one. -/
  ancestors : List Nat := []
  /-- Signals for which something is going to be run. -/
  noticed : List Nat := []
  /-- Signals that are going to arrive, with the times. -/
  arriving : List (Nat × Nat) := []
  aliases : List Alias := []
  /-- Programs that the shell remembers. -/
  hashed : List Bytes := []
  /-- Whether output of a command of the shell was lost. -/
  hasLost : Bool := false
  /-- The permissions that new files lack. -/
  mask : Nat := 18
  /-- The status of the last script whose output was used. -/
  outputStatus : Nat := 0

/-- How a process ended. -/
inductive Ended
  | exited (status : Nat)
  /-- A signal stopped it. -/
  | stopped (signal : Nat)
  /-- It ran longer than it may. -/
  | expired
  /-- It was not even started. -/
  | refused (fault : FileFault)
  deriving DecidableEq, Repr

/-- The status that a process leaves behind. -/
def Ended.status : Ended → Nat
  | exited status => status
  | stopped signal => 128 + signal
  | expired => 124
  | refused fault => if fault = .notFound || fault = .notADirectory then 127 else 126

/-- How far a script in the background has come. -/
inductive Progress
  | waiting
  | running
  | ended (how : Ended) (time : Nat)
  deriving DecidableEq, Repr

/-- A script in the background. -/
structure Job where
  parent : Nat
  script : Script
  own : Own
  started : Nat
  progress : Progress := .waiting
  /-- Whether the shell has told how it ended. -/
  isTold : Bool := false

/-- The process of a job. -/
def Job.process (job : Job) : Nat := job.own.process

/-- What processes share, and the process that is running. -/
structure State where
  files : FileSystem
  streams : List Stream := []
  /-- The time in milliseconds since the beginning. -/
  clock : Nat := 0
  deadline : Nat
  nextProcess : Nat := 4243
  documents : Documents := []
  jobs : List Job := []
  /-- Signals that were sent to processes which have not noticed them yet. -/
  sent : List (Nat × Nat) := []
  own : Own

/-- Why a script does not go on behind a command. -/
inductive Flow
  | exit
  /-- A mistake that ends the shell, unless a command of it is at fault that it can do without. -/
  | fail
  /-- The process has become a program that has ended. -/
  | replaced
  /-- The process is stopped by a signal. -/
  | signal (number : Nat)
  | timeout
  /-- A loop or a utility does not come to an end. -/
  | endless
  | leaveLoop (count : Nat)
  | nextTurn (count : Nat)
  | leaveFunction
  deriving DecidableEq, Repr

/-- A computation of a shell. -/
abbrev Run := ExceptT Flow (StateM State)

/-- A computation, whatever comes of it. -/
def Run.attempt {α : Type} (run : Run α) : Run (Except Flow α) :=
  fun state ↦
    let (result, state) := run.run state
    (.ok result, state)

/-- What belongs to the process is changed. -/
def changeOwn (f : Own → Own) : Run Unit :=
  modify fun state ↦ { state with own := f state.own }

/-- What belongs to the process. -/
def own : Run Own := do return (← get).own

/-- A command ends with a code. -/
def endWith (status : Nat) : Run Unit :=
  changeOwn fun own ↦ { own with status }

namespace State

/-- The stream of a descriptor. -/
def streamOf (state : State) (descriptor : Nat) : Option Stream :=
  (state.own.descriptors.find? fun entry ↦ entry.1 == descriptor).bind fun entry ↦
    state.streams[entry.2]?

/-- The number of the stream of a descriptor. -/
def indexOf (state : State) (descriptor : Nat) : Option Nat :=
  (state.own.descriptors.find? fun entry ↦ entry.1 == descriptor).map Prod.snd

/-- A file with content written at a place. -/
def spliced (content : Bytes) (offset : Nat) (written : Bytes) : Bytes :=
  (content ++ List.replicate (offset - content.length) 0).take offset ++ written ++
    content.drop (offset + written.length)

/-- The state after bytes were written to a stream, or why they are not. -/
def write (state : State) (index : Nat) (content : Bytes) : Except FileFault State :=
  match state.streams[index]? with
  | some (.collector _) =>
    .ok { state with streams := state.streams.modify index fun
      | .collector parts => .collector ((state.clock, content) :: parts)
      | stream => stream }
  | some (.file location offset appends) =>
    match state.files.lookup location with
    | some (.file before) =>
      let offset := if appends then before.length else offset
      let after := Stream.file location (offset + content.length) appends
      .ok { state with
        files := state.files.put location (.file (spliced before offset content))
        streams := state.streams.modify index fun _ ↦ after }
    | _ => .ok state
  | some (.device .full) => if content.isEmpty then .ok state else .error .noSpace
  | some (.device _) => .ok state
  | _ => if content.isEmpty then .ok state else .error .badDescriptor

/-- What can be read from a stream. -/
def readable (state : State) (index : Nat) : Except FileFault Bytes :=
  match state.streams[index]? with
  | some (.source left _) => .ok left
  | some (.file location offset _) =>
    match state.files.lookup location with
    | some (.file content) => .ok (content.drop offset)
    | _ => .ok []
  | some (.device _) => .ok []
  | some .directory => .error .isADirectory
  | _ => .error .badDescriptor

/-- The state when so much is left to be read from a stream. -/
def leave (state : State) (index : Nat) (left : Bytes) : State :=
  match state.streams[index]? with
  | some (.source _ ends) =>
    { state with streams := state.streams.modify index fun _ ↦ .source left ends }
  | some (.file location _ appends) =>
    let length := match state.files.lookup location with
      | some (.file content) => content.length
      | _ => 0
    { state with
      streams := state.streams.modify index fun _ ↦ .file location (length - left.length) appends }
  | _ => state

/-- What was written to a stream, in the order of the times. -/
def written (state : State) (index : Nat) : Bytes :=
  match state.streams[index]? with
  | some (.collector parts) =>
    (parts.reverse.mergeSort fun a b ↦ a.1 ≤ b.1).flatMap Prod.snd
  | _ => []

/-- The state with one more stream, and its number. -/
def addStream (state : State) (stream : Stream) : Nat × State :=
  (state.streams.length, { state with streams := state.streams ++ [stream] })

/-- The cell of a variable. -/
def cell? (state : State) (name : Text) : Option Cell :=
  (state.own.store.find? fun entry ↦ entry.1 == name).map Prod.snd

/-- The value of a variable, if it has one. -/
def valueOf? (state : State) (name : Text) : Option Bytes :=
  (state.cell? name).bind Cell.value

/-- Whether an option is set. -/
def has (state : State) (option : Char) : Bool :=
  state.own.options.contains option

/-- The bytes that separate words. -/
def separators (state : State) : Bytes :=
  (state.valueOf? "IFS".toList).getD [0x20, 0x09, 0x0A]

/-- The names and values of the variables that commands get to know. -/
def environment (state : State) : List (Text × Bytes) :=
  state.own.store.filterMap fun entry ↦
    if entry.2.exported then entry.2.value.map fun value ↦ (entry.1, value) else none

/-- The value of a parameter, if it has one. -/
def parameter? (state : State) (name : Text) : Option Bytes :=
  match name with
  | ['?'] => some (ofNatural state.own.status)
  | ['$'] => some (ofNatural state.own.shell)
  | ['!'] => state.own.lastJob.map ofNatural
  | ['#'] => some (ofNatural state.own.arguments.length)
  | ['-'] => some (Text.encode state.own.options)
  | ['@'] | ['*'] => some (List.intercalate ((state.separators.take 1)) state.own.arguments)
  | ['0'] => some state.own.name
  | _ =>
    if name.all Char.isDigit then
      state.own.arguments[(((String.ofList name).toNat?).getD 0) - 1]?
    else state.valueOf? name

end State

/-- The entries with one more, in place of an older one of the same name. -/
def putCell (name : Text) (cell : Cell) : List (Text × Cell) → List (Text × Cell)
  | [] => [(name, cell)]
  | entry :: rest => if entry.1 = name then (name, cell) :: rest else entry :: putCell name cell rest

/-- Bytes are written to a descriptor; whether that works. -/
def emit (descriptor : Nat) (content : Bytes) : Run (Option FileFault) := do
  let state ← get
  match state.indexOf descriptor with
  | none => return if content.isEmpty then none else some .badDescriptor
  | some index =>
    match state.write index content with
    | .ok state =>
      set state
      return none
    | .error fault => return some fault

/-- The shell complains. -/
def complain (message : Bytes) : Run Unit := do
  let own ← own
  let called := match own.called with
    | some called => called ++ bytes ": "
    | none => []
  let _ ← emit 2 (own.name ++ bytes ": " ++ ofNatural own.line ++ bytes ": " ++ called ++ message ++
    [lineEnd])

/-- The shell complains and gives up. -/
def giveUp {α : Type} (message : Bytes) : Run α := do
  complain message
  endWith 2
  throw .fail

/-- Time passes up to a moment, unless the deadline comes first. -/
def advance (time : Nat) : Run Unit := do
  let state ← get
  if state.deadline ≤ time then
    set { state with clock := max state.clock state.deadline }
    throw .timeout
  else set { state with clock := max state.clock time }

/-- The end of what can be read from a stream is awaited. -/
def awaitEnd (index : Nat) : Run Unit := do
  let state ← get
  match state.streams[index]? with
  | some (.source _ (some time)) => advance time
  | some (.source _ none) => advance state.deadline
  | some (.device .zero) => throw .endless
  | _ => return ()

/-- A variable is set.  It fails if the variable is fixed. -/
def setVariable (name : Text) (value : Bytes) (exports : Bool) : Run Unit := do
  let state ← get
  let before := state.cell? name
  if (before.map Cell.fixed).getD false then
    giveUp (Text.encode name ++ bytes ": is read only")
  let exported := exports || state.has 'a' || (before.map Cell.exported).getD false
  changeOwn fun own ↦ { own with
    store := putCell name ⟨some value, exported, false⟩ own.store
    letters := if name = "OPTIND".toList then 0 else own.letters }

/-- A variable is kept for the function or command that is running, to be restored behind it. -/
def keepVariable (name : Text) : Run Unit := do
  let cell := (← get).cell? name
  changeOwn fun own ↦
    match own.saved with
    | frame :: frames =>
      if frame.any fun entry ↦ entry.1 == name then own
      else { own with saved := ((name, cell) :: frame) :: frames }
    | [] => own

/-- A computation behind which the variables that it keeps are restored. -/
def restoring {α : Type} (run : Run α) : Run α := do
  changeOwn fun own ↦ { own with saved := [] :: own.saved }
  let result ← Run.attempt run
  changeOwn fun own ↦
    match own.saved with
    | frame :: frames =>
      { own with
        saved := frames
        store := frame.foldl (fun store entry ↦
          match entry.2 with
          | some cell => putCell entry.1 cell store
          | none => store.filter fun other ↦ other.1 != entry.1) own.store }
    | [] => own
  match result with
  | .ok a => return a
  | .error flow => throw flow

end CodeRepair.Shell
