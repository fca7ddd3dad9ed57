import CodeRepair.Execution.ErrorLine
import CodeRepair.Execution.Event

/-!
# An execution as threads

Five parties take part in an execution.  One forwards the output, one the lines of error output and
one writes the input; the supervisor starts them, waits for the command to end, joins them and sends
the last event; the consumer reads the events from the channel that they all send to.  The channel
keeps the order in which events come in, and it is closed when nobody is left who sends.  The parties
move in any order; one that has to wait does not change anything.
-/

namespace CodeRepair.Execution

/-- How the wait for a command ends. -/
inductive Wait
  | exited (code : Option Nat)
  /-- The time limit passed, or waiting failed. -/
  | failed (message : Text)
  /-- The supervisor itself breaks off. -/
  | crashed
  deriving DecidableEq, Repr

/-- What is going to happen in an execution. -/
structure Course where
  /-- Why the command does not start, if it does not. -/
  startFault : Option Text := none
  /-- The output as it is read, part by part, and the fault that ends the reading, if one does. -/
  chunks : List (List UInt8) := []
  outputFault : Option Text := none
  /-- The error output as it is read, line by line, and the fault that ends the reading, if one
  does. -/
  lines : List (List UInt8) := []
  errorFault : Option Text := none
  /-- The fault in writing the input, if there is one. -/
  inputFault : Option Text := none
  wait : Wait
  deriving DecidableEq, Repr

/-- How far the supervisor has come. -/
inductive Phase
  | starting
  | waiting
  /-- The command has ended and the other parties are waited for. -/
  | joining (code : Option Nat)
  | gone
  deriving DecidableEq, Repr

/-- The state of an execution. -/
structure System where
  phase : Phase := .starting
  /-- Whether the forwarders and the writer were started. -/
  launched : Bool := false
  /-- What is still to be forwarded. -/
  chunks : List (List UInt8)
  lines : List (List UInt8)
  outputDone : Bool := false
  errorsDone : Bool := false
  inputDone : Bool := false
  /-- What was sent and not yet read, the first event first. -/
  channel : List Event := []
  /-- Whether the consumer has read a last event. -/
  finished : Bool := false
  /-- What each read of the consumer gave, in order. -/
  reads : List (Option Event) := []
  deriving DecidableEq, Repr

/-- Who moves. -/
inductive Party
  | output
  | errors
  | input
  | supervisor
  | consumer
  deriving DecidableEq, Repr

namespace System

/-- An execution before anybody moved. -/
def start (course : Course) : System :=
  { chunks := course.chunks, lines := course.lines }

/-- One more event in the channel. -/
def send (system : System) (event : Event) : System :=
  { system with channel := system.channel ++ [event] }

/-- The supervisor sends the last event and leaves. -/
def conclude (system : System) (event : Event) : System :=
  { system.send event with phase := .gone }

/-- Whether nobody is left who sends. -/
def isClosed (system : System) : Bool :=
  system.phase == .gone && (!system.launched || (system.outputDone && system.errorsDone))

/-- The forwarder of the output moves. -/
def forwardOutput (system : System) : System :=
  if !system.launched || system.outputDone then system
  else match system.chunks with
    | chunk :: rest => { system.send (.output chunk) with chunks := rest }
    | [] => { system with outputDone := true }

/-- The forwarder of the error output moves.  A blank line is read and left out. -/
def forwardErrors (system : System) : System :=
  if !system.launched || system.errorsDone then system
  else match system.lines with
    | line :: rest =>
      match errorLine? line with
      | some text => { system.send (.errorLine text) with lines := rest }
      | none => { system with lines := rest }
    | [] => { system with errorsDone := true }

/-- The supervisor joins the writer and then the forwarders; a fault of one of them is the last
event. -/
def join (course : Course) (system : System) (code : Option Nat) : System :=
  if !system.inputDone then system
  else match course.inputFault with
    | some fault => system.conclude (.failed fault)
    | none =>
      if !system.outputDone then system
      else match course.outputFault with
        | some fault => system.conclude (.failed fault)
        | none =>
          if !system.errorsDone then system
          else match course.errorFault with
            | some fault => system.conclude (.failed fault)
            | none => system.conclude (.completed code)

/-- The supervisor moves. -/
def supervise (course : Course) (system : System) : System :=
  match system.phase with
  | .starting =>
    match course.startFault with
    | some fault => system.conclude (.failed fault)
    | none => { system with phase := .waiting, launched := true }
  | .waiting =>
    match course.wait with
    | .exited code => { system with phase := .joining code }
    | .failed message => system.conclude (.failed message)
    | .crashed => { system with phase := .gone }
  | .joining code => system.join course code
  | .gone => system

/-- The consumer reads, unless there is nothing to read yet. -/
def consume (system : System) : System :=
  if system.finished then { system with reads := system.reads ++ [none] }
  else match system.channel with
    | event :: rest =>
      { system with
        channel := rest, finished := event.isTerminal, reads := system.reads ++ [some event] }
    | [] =>
      if system.isClosed then
        { system with finished := true, reads := system.reads ++ [some abandoned] }
      else system

/-- A party moves. -/
def step (course : Course) (system : System) : Party → System
  | .output => system.forwardOutput
  | .errors => system.forwardErrors
  | .input => if system.launched then { system with inputDone := true } else system
  | .supervisor => system.supervise course
  | .consumer => system.consume

/-- The parties move in a given order. -/
def run (course : Course) (schedule : List Party) : System :=
  schedule.foldl (step course) (start course)

end System

end CodeRepair.Execution
