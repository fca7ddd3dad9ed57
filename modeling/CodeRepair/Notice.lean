import CodeRepair.Text.Basic

/-!
# Notices

What the user is told while the program works, and how a terminal shows it.  A terminal numbers the
steps of a task and starts anew with each task.
-/

namespace CodeRepair

/-- One thing the user is told. -/
inductive Notice
  | error (message : Text)
  | info (message : Text)
  /-- A task begins; it may be one that can be broken off. -/
  | begun (title : Text) (cancellable : Bool)
  /-- The task goes on to its next step. -/
  | step (label : Text)
  | finished (succeeded : Bool)
  deriving DecidableEq, Repr

namespace Notice

/-- What a terminal shows for a notice after a number of steps, and the number of steps then. -/
def display (steps : Nat) : Notice → Text × Nat
  | error message => ("error: ".toList ++ message ++ ['\n'], steps)
  | info message => (message ++ ['\n'], steps)
  | begun title cancellable =>
    (title ++ (if cancellable then " (Ctrl-C to cancel)".toList else []) ++ ['\n'], 0)
  | step label =>
    ("  [".toList ++ Text.ofNat (steps + 1) ++ "] ".toList ++ label ++ "...\n".toList, steps + 1)
  | finished succeeded => (if succeeded then "  done\n".toList else [], steps)

/-- What a terminal shows for each notice in turn. -/
def displayAll : Nat → List Notice → List Text
  | _, [] => []
  | steps, notice :: rest => (notice.display steps).1 :: displayAll (notice.display steps).2 rest

end Notice

end CodeRepair
