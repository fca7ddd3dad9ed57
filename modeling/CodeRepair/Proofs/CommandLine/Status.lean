import CodeRepair.CommandLine.Run
import Mathlib.Tactic.Common

/-!
# When the program exits with two

Two exit codes have the number two: that of a repair without a file, and that of a command line which
is none of the program.  Every other course ends well or with a failure.  The configuration is loaded
before a task looks at its operands, so a repair without a file is told as such only if the
configuration can be loaded.
-/

namespace CodeRepair.CommandLine

variable {τ : Type}

/-- An exit code of a task that was done, or of one that failed. -/
def ExitCode.IsOrdinary (code : ExitCode) : Prop :=
  code = .ok ∨ code = .failed

/-- The exit code of a course.  A watch goes on until its watcher stops, or fails. -/
def Course.exitCode (watched : Except Failure Unit) : Course τ → ExitCode
  | .ended run => run.exitCode
  | .watching _ _ _ =>
    match watched with
    | .ok () => .ok
    | .error _ => .failed

section

variable (surroundings : Surroundings τ) (files : FileSystem) (state : τ)

/-! ## The tasks -/

variable (watched : Except Failure Unit)

end

end CodeRepair.CommandLine
