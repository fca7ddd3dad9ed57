import CodeRepair.Document

/-!
# File events

A watcher reports what happens to files.  A file was saved when an event says that it was created or
changed in any way, which includes a new name and new metadata.  The saved Python files of a batch
of events are listed in order and once each.
-/

namespace CodeRepair.Watch

/-- What happened to a file. -/
inductive Change
  | created
  | modified
  | removed
  | accessed
  /-- The watcher does not say what. -/
  | unknown
  /-- Something else. -/
  | other
  deriving DecidableEq, Repr

/-- Whether a change leaves a new content of the file to look at. -/
def Change.isSave : Change → Bool
  | .created | .modified => true
  | _ => false

/-- One event, which may be about several files. -/
structure Event where
  change : Change
  paths : List Path
  deriving DecidableEq, Repr

/-- The Python files that a batch of events saves, in the order in which the events name them. -/
def saves (events : List Event) : List Path :=
  (events.filter fun event ↦ event.change.isSave).flatMap fun event ↦
    event.paths.filter fun path ↦ Language.ofPath path == .python

/-- The Python files that a batch of events saves, sorted and each once. -/
def savedPaths (events : List Event) : List Path :=
  Path.sortedSet (saves events)

end CodeRepair.Watch
