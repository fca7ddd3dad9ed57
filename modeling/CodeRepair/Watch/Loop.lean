import CodeRepair.Watch.Event

/-!
# The watch loop

The loop collects events until none comes for a while.  Then it refreshes each saved Python file of
the batch once, and a new batch begins.
-/

namespace CodeRepair.Watch

/-- What the loop receives: an event, or word that none came for one poll interval. -/
inductive Input
  | event (event : Event)
  | timeout
  deriving DecidableEq, Repr

/-- The events that wait for the end of their batch, the first one first. -/
abbrev Pending := List Event

/-- One turn of the loop: the events that wait then, and the files to be refreshed now. -/
def step (pending : Pending) : Input → Pending × List Path
  | .event event => (pending ++ [event], [])
  | .timeout => ([], savedPaths pending)

/-- The files that each turn of the loop refreshes. -/
def run (pending : Pending) : List Input → List (List Path)
  | [] => []
  | input :: inputs => (step pending input).2 :: run (step pending input).1 inputs

end CodeRepair.Watch
