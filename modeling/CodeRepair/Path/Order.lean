import CodeRepair.Path.Basic

/-!
# The order of paths

Paths are compared component by component: the root, the current directory, the parent directory
and then the names in the order of their characters, and a path comes before its continuations.
-/

namespace CodeRepair

/-- The order of characters, which is that of their UTF-8 bytes. -/
def Text.compare : Text → Text → Ordering
  | [], [] => .eq
  | [], _ :: _ => .lt
  | _ :: _, [] => .gt
  | c :: text, d :: other => (Ord.compare c.toNat d.toNat).then (Text.compare text other)

namespace Path

/-- The place of a kind of component in the order. -/
def Component.rank : Component → Nat
  | .root => 0
  | .current => 1
  | .parent => 2
  | .normal _ => 3

/-- The order of components. -/
def Component.compare : Component → Component → Ordering
  | .normal name, .normal other => Text.compare name other
  | component, other => Ord.compare component.rank other.rank

/-- The order of lists of components. -/
def compareComponents : List Component → List Component → Ordering
  | [], [] => .eq
  | [], _ :: _ => .lt
  | _ :: _, [] => .gt
  | a :: as, b :: bs => (a.compare b).then (compareComponents as bs)

/-- The order of paths. -/
def compare (path other : Path) : Ordering :=
  compareComponents path.components other.components

/-- Whether two paths have the same components. -/
def same (path other : Path) : Bool :=
  path.components == other.components

/-- A path put in its place in a list that is sorted; of two paths that are the same the new one
stays. -/
def insertSorted (path : Path) : List Path → List Path
  | [] => [path]
  | other :: rest =>
    match path.compare other with
    | .lt => path :: other :: rest
    | .eq => path :: rest
    | .gt => other :: insertSorted path rest

/-- The paths of a list in order, each once, in the spelling in which it comes last. -/
def sortedSet (paths : List Path) : List Path :=
  paths.foldl (fun sorted path ↦ insertSorted path sorted) []

end Path

end CodeRepair
