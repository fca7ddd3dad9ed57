import CodeRepair.Shell.Bytes
import CodeRepair.FileSystem.Operation

/-!
# Executables

What a path leads to can be run if it is a program of the machine or a file that is marked for it.  A
file may begin with a line that names the program which reads it.  A name without a slash is searched
in some directories.
-/

namespace CodeRepair.Shell

/-- Something that can be run. -/
inductive Executable
  | program (name : Text)
  | file (content : Bytes)
  deriving Repr

/-- What can be run at a path. -/
def executableAt (files : FileSystem) (path : Path) : Except FileFault Executable :=
  match files.locate path with
  | .ok (_, .program name) => .ok (.program name)
  | .ok (location, .file content) =>
    if files.runnable.contains location then .ok (.file content) else .error .notExecutable
  | .ok _ => .error .notExecutable
  | .error fault => .error fault

/-- The paths at which a name is searched. -/
def candidatesOf (searched : Bytes) (name : Text) : List Path :=
  (cutAt (byte ':') searched).map fun directory ↦
    if directory.isEmpty then name else Text.decodeLenient directory ++ '/' :: name

/-- What can be run at the first path that leads to such a thing, and that path.  If there is none, what
stands in the way counts, if anything does. -/
def searchExecutable (files : FileSystem) (fault : FileFault) :
    List Path → Except FileFault (Path × Executable)
  | [] => .error fault
  | path :: rest =>
    match executableAt files path with
    | .ok executable => .ok (path, executable)
    | .error .notFound | .error .notADirectory => searchExecutable files fault rest
    | .error other => searchExecutable files other rest

/-- What a name stands for that may have slashes in it. -/
def findExecutable (files : FileSystem) (searched : Bytes) (name : Text) :
    Except FileFault (Path × Executable) :=
  if name.contains '/' then (executableAt files name).map fun executable ↦ (name, executable)
  else searchExecutable files .notFound (candidatesOf searched name)

/-- The program that the first line of a file names, and perhaps an argument for it. -/
def interpreter? (content : Bytes) : Option (Bytes × Option Bytes) :=
  if (bytes "#!").isPrefixOf content then
    let isBlank := fun (b : UInt8) ↦ b == 0x20 || b == 0x09
    let line := ((content.drop 2).takeWhile (· != lineEnd)).dropWhile isBlank
    let program := line.takeWhile fun b ↦ !isBlank b
    let rest := (((line.drop program.length).dropWhile isBlank).reverse.dropWhile isBlank).reverse
    if program.isEmpty then none else some (program, if rest.isEmpty then none else some rest)
  else none

/-- What is run in the end. -/
inductive Launch
  /-- A program of the machine, with its words. -/
  | program (name : Text) (words : List Bytes)
  /-- A file that names no program, with its arguments. -/
  | script (path : Path) (content : Bytes) (arguments : List Bytes)
  deriving Repr

/-- What is run for words whose first one led to a path.  Files may name files that read them. -/
def launchOf (files : FileSystem) : Nat → Path → Executable → List Bytes → Except FileFault Launch
  | _, _, .program name, words => .ok (.program name words)
  | 0, _, _, _ => .error .tooManyLinks
  | depth + 1, path, .file content, words =>
    match interpreter? content with
    | none => .ok (.script path content (words.drop 1))
    | some (program, extra) => do
      let executable ← executableAt files (Text.decodeLenient program)
      launchOf files depth (Text.decodeLenient program) executable
        (program :: extra.toList ++ Text.encode path :: words.drop 1)

/-- What is run for words, of which the first one is searched if it has no slash. -/
def findLaunch (files : FileSystem) (searched : Bytes) (words : List Bytes) : Except FileFault Launch := do
  let (path, executable) ← findExecutable files searched (Text.decodeLenient (words.head?.getD []))
  launchOf files 5 path executable words

end CodeRepair.Shell
