import CodeRepair.Text.Utf8

/-!
# Events of an execution

A command that is executed is seen as a sequence of events: parts of its output, lines of its error
output, and one last event that says how it ended.  Whoever reads the events stops at the first one
that is a last one.
-/

namespace CodeRepair.Execution

/-- One thing that is seen of an execution. -/
inductive Event
  | output (chunk : List UInt8)
  | errorLine (line : Text)
  /-- The command ended, with a code unless a signal ended it. -/
  | completed (exitCode : Option Nat)
  | failed (message : Text)
  deriving DecidableEq, Repr

namespace Event

/-- Whether an event is a last one. -/
def isTerminal : Event → Bool
  | completed _ | failed _ => true
  | output _ | errorLine _ => false

end Event

/-- What is read when the events end without a last one. -/
def abandoned : Event :=
  .failed "process supervisor exited without a result".toList

/-- The events that are read of those that were sent. -/
def received : List Event → List Event
  | [] => [abandoned]
  | event :: rest => if event.isTerminal then [event] else event :: received rest

/-- The output in a list of events. -/
def outputOf (events : List Event) : List UInt8 :=
  events.flatMap fun
    | .output chunk => chunk
    | _ => []

/-- The lines of error output in a list of events. -/
def errorLinesOf (events : List Event) : List Text :=
  events.filterMap fun
    | .errorLine line => some line
    | _ => none

/-! ## Collected output -/

/-- What an execution came to when it completed. -/
structure Collected where
  output : Text
  exitCode : Option Nat
  /-- How many bytes of output were beyond the limit. -/
  truncated : Nat
  deriving DecidableEq, Repr

/-- What has been kept of the output, and how much was not. -/
structure Kept where
  bytes : List UInt8 := []
  truncated : Nat := 0
  deriving DecidableEq, Repr

/-- What is kept after one more part of the output. -/
def Kept.add (limit : Nat) (kept : Kept) (chunk : List UInt8) : Kept :=
  let taken := chunk.take (limit - kept.bytes.length)
  ⟨kept.bytes ++ taken, kept.truncated + (chunk.length - taken.length)⟩

/-- Events read up to the last one: the lines of error output on the way, and what the execution came
to. -/
def collectFrom (limit : Nat) (kept : Kept) : List Event → List Text × Except Text Collected
  | [] => ([], .error "process run ended without a terminal event".toList)
  | .output chunk :: rest => collectFrom limit (kept.add limit chunk) rest
  | .errorLine line :: rest =>
    let (lines, result) := collectFrom limit kept rest
    (line :: lines, result)
  | .completed exitCode :: _ =>
    ([], .ok ⟨Text.decodeLenient kept.bytes, exitCode, kept.truncated⟩)
  | .failed message :: _ => ([], .error message)

/-- What the events of an execution come to when at most a number of bytes of output is kept. -/
def collect (limit : Nat) (events : List Event) : List Text × Except Text Collected :=
  collectFrom limit {} (received events)

end CodeRepair.Execution
