import CodeRepair.FileSystem.Basic

/-!
# Where a path leads

A path is followed name by name.  Every name but the last must be a directory, or a link to one; a
slash at the end asks for a directory too.  A symbolic link is replaced by its target, and at most
forty links are followed.  What happens at the last name depends on what the path is followed for:
to get what is there, to open a file that may be made, or to work on the entry itself.
-/

namespace CodeRepair

/-- What a path is followed for. -/
inductive Purpose
  /-- For what stands at its end, links followed. -/
  | content
  /-- For a file that is made if it is missing. -/
  | creation
  /-- For the entry at its end, which may be a link. -/
  | entry
  deriving DecidableEq, Repr

/-- Where a path leads. -/
inductive Place
  | found (location : Location) (node : Node)
  /-- The last name is missing; a slash may follow it. -/
  | vacant (location : Location) (slash : Bool)
  deriving DecidableEq, Repr

/-- How far a path is followed without replacing a link. -/
inductive Passage
  | arrived (place : Place)
  | fault (fault : FileFault)
  /-- In a directory there is a link to a target, with names left behind it. -/
  | link (here : Location) (target : Path) (rest : List Text)
  deriving DecidableEq, Repr

/-- What one name does to a path: the path goes on in a directory, or it stops. -/
inductive Stride
  | on (here : Location)
  | stop (passage : Passage)
  deriving DecidableEq, Repr

namespace Path

/-- The greatest number of bytes in a name. -/
def greatestName : Nat := 255

/-- The greatest number of bytes in a path. -/
def greatestLength : Nat := 4095

/-- The number of bytes of a text. -/
def byteLength (text : Text) : Nat :=
  text.foldl (fun length c ↦ length + c.utf8Size) 0

/-- The names of a path in order, with an empty one at the end if the path ends in a slash. -/
def names (path : Path) : List Text :=
  let names := (Text.pieces '/' path).filter fun piece ↦ !piece.isEmpty
  if path.getLast? = some '/' && !names.isEmpty then names ++ [[]] else names

/-- Whether a path begins at the root. -/
def beginsAtRoot (path : Path) : Bool :=
  path.head? = some '/'

end Path

namespace FileSystem

/-- What a name does that stands for an entry of a directory, by what is there. -/
def enter (purpose : Purpose) (here : Location) (name : Text) (rest : List Text)
    (node? : Option Node) : Stride :=
  let location := here ++ [name]
  let isLast := rest.all List.isEmpty
  let slash := isLast && !rest.isEmpty
  if purpose = .creation && slash then .stop (.fault .isADirectory)
  else if Path.greatestName < Path.byteLength name then .stop (.fault .nameTooLong)
  else match node? with
    | none => .stop (if isLast then .arrived (.vacant location slash) else .fault .notFound)
    | some .directory =>
      if isLast then .stop (.arrived (.found location .directory)) else .on location
    | some (.link target) =>
      .stop (if isLast && purpose = .entry then .arrived (.found location (.link target))
        else .link here target rest)
    | some node =>
      .stop (if rest.isEmpty || (isLast && purpose = .entry) then .arrived (.found location node)
        else .fault .notADirectory)

/-- What a name does in a directory, when others follow it. -/
def stride (files : FileSystem) (purpose : Purpose) (here : Location) (name : Text)
    (rest : List Text) : Stride :=
  if name = [] || name = ['.'] then .on here
  else if name = ['.', '.'] then .on here.dropLast
  else enter purpose here name rest (files.lookup (here ++ [name]))

/-- The names followed from a directory on, up to the first link that has to be replaced. -/
def advance (files : FileSystem) (purpose : Purpose) (here : Location) : List Text → Passage
  | [] => .arrived (.found here .directory)
  | name :: rest =>
    match files.stride purpose here name rest with
    | .on next => advance files purpose next rest
    | .stop passage => passage

/-- Where names lead from a directory on, when so many links may be replaced. -/
def resolveFrom (files : FileSystem) (purpose : Purpose) :
    Nat → Location → List Text → Except FileFault Place
  | links, here, names =>
    match files.advance purpose here names with
    | .arrived place => .ok place
    | .fault fault => .error fault
    | .link here target rest =>
      match links with
      | 0 => .error .tooManyLinks
      | links + 1 =>
        if target.isEmpty then .error .notFound
        else resolveFrom files purpose links (if Path.beginsAtRoot target then [] else here)
          (Path.names target ++ rest)

/-- The greatest number of links that are followed on one path. -/
def greatestLinks : Nat := 40

/-- Where a path leads. -/
def resolve (files : FileSystem) (purpose : Purpose) (path : Path) : Except FileFault Place :=
  if path.contains '\x00' then .error .pathHoldsNull
  else if path.isEmpty then .error .notFound
  else if Path.greatestLength < Path.byteLength path then .error .nameTooLong
  else resolveFrom files purpose greatestLinks
    (if Path.beginsAtRoot path then [] else files.workingDirectory) (Path.names path)

end FileSystem

end CodeRepair
