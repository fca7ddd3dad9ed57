import CodeRepair.Text.Basic

/-!
# Paths

A path is a text in which slashes separate components.  Empty components and `.` say nothing and
are left out, except for a `.` at the very beginning of a relative path; `..` is a component like
any other, since what it leads to depends on symbolic links.  Two paths are the same when their
components are, and paths are ordered by their components.

A path keeps its spelling: its parent and its file name are parts of its text.
-/

namespace CodeRepair

/-- A path, as it is spelled. -/
abbrev Path := Text

namespace Path

/-- A component of a path. -/
inductive Component
  | root
  | current
  | parent
  | normal (name : Text)
  deriving DecidableEq, Repr

/-- The anchor at the beginning of a path, in front of its pieces. -/
inductive Anchor
  | none
  | root
  | current
  deriving DecidableEq, Repr

/-- The text of an anchor. -/
def Anchor.text : Anchor → Text
  | none => []
  | root => ['/']
  | current => ['.']

/-- The component of an anchor. -/
def Anchor.components : Anchor → List Component
  | none => []
  | root => [.root]
  | current => [.current]

/-- The anchor of a path and the text behind it. -/
def split : Path → Anchor × Text
  | '/' :: rest => (.root, rest)
  | ['.'] => (.current, [])
  | '.' :: '/' :: rest => (.current, '/' :: rest)
  | path => (.none, path)

/-- Whether a piece between slashes names no component. -/
def isIdle (piece : Text) : Bool :=
  piece.isEmpty || piece == ['.']

/-- The component of a piece that is not idle. -/
def Component.ofPiece (piece : Text) : Component :=
  if piece = ['.', '.'] then .parent else .normal piece

/-- The pieces of a path behind its anchor, with the idle ones at the end left out. -/
def pieces (path : Path) : List Text :=
  ((Text.pieces '/' path.split.2).reverse.dropWhile isIdle).reverse

/-- The components of a path. -/
def components (path : Path) : List Component :=
  path.split.1.components ++
    ((Text.pieces '/' path.split.2).filter fun piece ↦ !isIdle piece).map .ofPiece

/-- Whether a path begins at the root. -/
def isAbsolute (path : Path) : Bool :=
  path.split.1 == .root

/-- A path without the slashes and idle pieces at its end. -/
def trimmed (path : Path) : Path :=
  path.split.1.text ++ Text.join ['/'] path.pieces

/-- The last component of a path, if it is a name. -/
def fileName? (path : Path) : Option Text :=
  match path.pieces.getLast? with
  | some piece => if piece = ['.', '.'] then none else some piece
  | none => none

/-- A file name before and after its last dot.  A dot at the beginning is part of the name. -/
def splitName (name : Text) : Text × Option Text :=
  let after := (name.reverse.takeWhile (· != '.')).reverse
  let before := name.take (name.length - after.length - 1)
  if after.length = name.length || before.isEmpty then (name, none) else (before, some after)

/-- The file name without its extension. -/
def stem? (path : Path) : Option Text :=
  path.fileName?.map fun name ↦ (splitName name).1

/-- What follows the last dot of the file name. -/
def extension? (path : Path) : Option Text :=
  path.fileName?.bind fun name ↦ (splitName name).2

/-- The path without its last component, `none` for the root and the empty path. -/
def parent? (path : Path) : Option Path :=
  match path.pieces with
  | [] => if path.split.1 = .current then some [] else none
  | pieces =>
    let rest := (pieces.dropLast.reverse.dropWhile isIdle).reverse
    some (path.split.1.text ++ Text.join ['/'] rest)

/-- A path with a name, or with a whole path, after it. -/
def append (path next : Path) : Path :=
  if next.isAbsolute then next
  else if path.isEmpty || path.getLast? = some '/' then path ++ next
  else path ++ '/' :: next

/-- The path that ends, in place of its extension, in another one; a path without a file name stays
as it is. -/
def replaceExtension (path : Path) (extension : Text) : Path :=
  match path.fileName? with
  | none => path
  | some name =>
    let stem := (splitName name).1
    path.trimmed.take (path.trimmed.length - name.length) ++ stem ++ '.' :: extension

/-- The path that ends in another extension.  The extension is first cut off the end of the text,
whatever stands there, and then what is left gets the new one. -/
def withExtension (path : Path) (extension : Text) : Path :=
  match path.extension? with
  | none => path.replaceExtension extension
  | some old => Path.replaceExtension (path.take (path.length - old.length)) extension

/-- A path made absolute against a directory, on its text alone: idle components go, `..` stays, a
slash at the end stays, and so do two slashes at the beginning when there are exactly two.  The
empty path has no absolute form. -/
def absolute? (directory path : Path) : Option Path :=
  if path.isEmpty then none
  else
    let start : Path :=
      if path.isAbsolute then
        if Text.startsWith ['/', '/'] path && !Text.startsWith ['/', '/', '/'] path then ['/', '/']
        else ['/']
      else directory
    let names := (Text.pieces '/' path.split.2).filter fun piece ↦ !isIdle piece
    let spelled := names.foldl append start
    some (if path.getLast? = some '/' && spelled.getLast? != some '/' then spelled ++ ['/']
      else spelled)

end Path

end CodeRepair
