import CodeRepair.Document.Stored

/-!
# Fixed documents

The text that a repair comes to is handed over as a new document: to a file of its own, for which
missing directories are made, or to the standard output.  A text that does not end a line gets a
line feed.  An output path that names the source document is refused.
-/

namespace CodeRepair.FixedDocument

/-- The text that is handed over. -/
def payload (text : Text) : Text :=
  if Text.endsInLineFeed text then text else text ++ ['\n']

/-- Where an output path will lead.  A path that leads nowhere yet is taken to be its name in the
directory in front of it. -/
def target? (files : FileSystem) (output : Path) : Option Path :=
  match files.canonical output with
  | .ok location => some location.path
  | .error _ =>
    match output.fileName? with
    | none => none
    | some name =>
      let parent := (output.parent?).getD []
      match files.canonical (if parent.isEmpty then ['.'] else parent) with
      | .ok directory => some (Path.append directory.path name)
      | .error _ => none

/-- Whether an output path names the source document.  A source that is not there is known by its
identity only. -/
def namesSource (files : FileSystem) (source : DocumentId) (output : Path) : Bool :=
  match files.canonical source.path with
  | .ok location => ((target? files output).map fun path ↦ path.same location.path).getD false
  | .error _ => (files.documentId output).same source

/-- What became of a fixed document: an error, or what stands on the standard output. -/
abbrev Outcome := Except Failure Text

/-- Hand over a fixed document. -/
def write (files : FileSystem) (source : DocumentId) (output : Option Path) (text : Text) :
    Outcome × FileSystem :=
  match output with
  | none => (.ok (payload text), files)
  | some output =>
    if namesSource files source output then
      (.error ["refusing to overwrite the source document ".toList ++ output], files)
    else
      let parent := (output.parent?).getD []
      match files.makeDirectories parent with
      | (some fault, files) =>
        (.error ["create output dir ".toList ++ parent, fault.message], files)
      | (none, files) =>
        match files.write output (Text.encode (payload text)) with
        | .ok files => (.ok [], files)
        | .error fault => (.error ["write ".toList ++ output, fault.message], files)

end CodeRepair.FixedDocument
