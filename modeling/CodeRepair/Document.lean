import CodeRepair.Path.Order

/-!
# Documents

A document is known by its path, made absolute, and the identities of two paths are equal when their
components are.  Its language shows in its extension.
-/

namespace CodeRepair

/-- The languages that are told apart. -/
inductive Language
  | python
  | other
  deriving DecidableEq, Repr

namespace Language

/-- Files that end in `.py` or `.pyi`, in small letters, are Python. -/
def ofPath (path : Path) : Language :=
  if path.extension? = some "py".toList || path.extension? = some "pyi".toList then python
  else other

end Language

/-- What a document is known by: its path, as it is shown. -/
structure DocumentId where
  path : Path
  deriving DecidableEq, Repr

namespace DocumentId

/-- The identity of a path as seen from a working directory.  The empty path is its own. -/
def ofPath (directory path : Path) : DocumentId :=
  ⟨(Path.absolute? directory path).getD path⟩

/-- Whether two identities are of one document. -/
def same (id other : DocumentId) : Bool :=
  id.path.same other.path

/-- The order of identities. -/
def compare (id other : DocumentId) : Ordering :=
  id.path.compare other.path

end DocumentId

/-- A document at one moment. -/
structure Document where
  id : DocumentId
  text : Text
  deriving DecidableEq, Repr

namespace Document

/-- The language of a document. -/
def language (document : Document) : Language :=
  .ofPath document.id.path

/-- Whether a document is Python. -/
def isPython (document : Document) : Bool :=
  document.language == .python

end Document

end CodeRepair
