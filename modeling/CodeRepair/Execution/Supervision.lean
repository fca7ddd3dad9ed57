import CodeRepair.Execution.Duration
import CodeRepair.Execution.ErrorLine
import CodeRepair.Execution.Event
import CodeRepair.FileSystem.Basic

/-!
# Supervised commands

A command is started, given its input, and waited for up to a time limit.  What it wrote is passed on
as events, and the last event says how it ended.
-/

namespace CodeRepair.Execution

/-- Why a command does not start. -/
inductive StartFault
  | file (fault : FileFault)
  /-- An argument holds the character that ends arguments elsewhere. -/
  | argumentHoldsNull
  deriving DecidableEq, Repr

/-- The wording of a fault. -/
def StartFault.message : StartFault → Text
  | file fault => fault.message
  | argumentHoldsNull => "nul byte found in provided data".toList

/-- How a started command ended. -/
inductive Ending
  /-- It ended by itself, with a code, or a signal ended it. -/
  | exited (code : Option Nat)
  | timedOut
  deriving DecidableEq, Repr

/-- What a command did. -/
inductive Conduct
  | refused (fault : StartFault)
  | started (output errors : List UInt8) (ending : Ending)
  deriving DecidableEq, Repr

/-- The message that a command ran longer than its limit of so many milliseconds. -/
def timeoutMessage (limit : Nat) : Text :=
  "command timed out after ".toList ++ duration limit

/-- The last event of a command. -/
def Ending.event (limit : Nat) : Ending → Event
  | exited code => .completed code
  | timedOut => .failed (timeoutMessage limit)

/-- The events of a command under a time limit in milliseconds, in one of their orders. -/
def Conduct.events (limit : Nat) : Conduct → List Event
  | refused fault => [.failed ("spawn command: ".toList ++ fault.message)]
  | started output errors ending =>
    (if output.isEmpty then [] else [.output output]) ++ (errorLines errors).map .errorLine ++
      [ending.event limit]

end CodeRepair.Execution
