import CodeRepair.Document
import CodeRepair.Failure
import CodeRepair.FileSystem.Operation

/-!
# Stored documents

A document is loaded from a file and keeps the identity of the path it was loaded from.
-/

namespace CodeRepair

namespace FileSystem

/-- The identity of a path as seen from the working directory. -/
def documentId (files : FileSystem) (path : Path) : DocumentId :=
  .ofPath files.workingDirectory.path path

end FileSystem

namespace Document

/-- The document in the file at a path. -/
def load (files : FileSystem) (path : Path) : Except Failure Document :=
  match files.readText path with
  | .ok text => .ok ⟨files.documentId path, text⟩
  | .error fault => .error ["read ".toList ++ path, fault.message]

end Document

end CodeRepair
