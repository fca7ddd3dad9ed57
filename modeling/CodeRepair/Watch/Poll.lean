import CodeRepair.Watch.Event

/-!
# Polling

A watcher that polls looks at the files again and again.  Two looks in a row give the events between
them.
-/

namespace CodeRepair.Watch

/-- What a look at files shows: their paths and contents. -/
abbrev Look := List (Path × List UInt8)

/-- The content at a path in a look. -/
def Look.content? (look : Look) (path : Path) : Option (List UInt8) :=
  (look.find? fun entry ↦ entry.1 == path).map Prod.snd

/-- What happened to a file between two looks, if anything did. -/
def changeOf (before after : Option (List UInt8)) : Option Change :=
  match before, after with
  | none, some _ => some .created
  | some _, none => some .removed
  | some old, some new => if old = new then none else some .modified
  | none, none => none

/-- The events between two looks. -/
def eventsBetween (before after : Look) : List Event :=
  let paths := (before ++ after).map Prod.fst
  paths.eraseDups.filterMap fun path ↦
    (changeOf (before.content? path) (after.content? path)).map fun change ↦ ⟨change, [path]⟩

end CodeRepair.Watch
