import CodeRepair.FileSystem.Resolution
import CodeRepair.Path.Order
import CodeRepair.Text.Utf8

/-!
# Operations on files

An operation either changes the file system as a whole or fails and leaves it as it was.  Only
making a directory together with the missing ones above it can fail halfway.
-/

namespace CodeRepair.FileSystem

/-- The location that a path leads to, links followed, if something is there. -/
def locate (files : FileSystem) (path : Path) : Except FileFault (Location × Node) :=
  match files.resolve .content path with
  | .ok (.found location node) => .ok (location, node)
  | .ok (.vacant _ _) => .error .notFound
  | .error fault => .error fault

/-- The location that a path leads to, links followed. -/
def canonical (files : FileSystem) (path : Path) : Except FileFault Location :=
  (files.locate path).map Prod.fst

/-- Whether a path leads to anything. -/
def contains (files : FileSystem) (path : Path) : Bool :=
  match files.locate path with
  | .ok _ => true
  | .error _ => false

/-- Whether a path leads to a directory. -/
def isDirectory (files : FileSystem) (path : Path) : Bool :=
  match files.locate path with
  | .ok (_, .directory) => true
  | _ => false

/-- Whether a path leads to a device. -/
def isDevice (files : FileSystem) (path : Path) : Bool :=
  match files.locate path with
  | .ok (_, .device _) => true
  | _ => false

/-- Whether what a path leads to never ends. -/
def isEndless (files : FileSystem) (path : Path) : Bool :=
  match files.locate path with
  | .ok (_, .device .zero) => true
  | _ => false

/-- The beginning of every program, which is no text. -/
def programHead : List UInt8 := [0x7F, 0x45, 0x4C, 0x46, 0x02, 0x01, 0x01, 0x00, 0xFF]

/-- The bytes of what a path leads to. -/
def read (files : FileSystem) (path : Path) : Except FileFault (List UInt8) :=
  match files.locate path with
  | .ok (_, .file content) => .ok content
  | .ok (_, .device .terminal) => .error .noDevice
  | .ok (_, .device _) => .ok []
  | .ok (_, .program _) => .ok programHead
  | .ok _ => .error .isADirectory
  | .error fault => .error fault

/-- The text of the file that a path leads to. -/
def readText (files : FileSystem) (path : Path) : Except FileFault Text :=
  match files.read path with
  | .ok content =>
    match Text.decode? content with
    | some text => .ok text
    | none => .error .notUtf8
  | .error fault => .error fault

/-- Write bytes to the file that a path leads to, making it if it is missing. -/
def write (files : FileSystem) (path : Path) (content : List UInt8) :
    Except FileFault FileSystem :=
  match files.resolve .creation path with
  | .ok (.found location (.file _)) => .ok (files.put location (.file content))
  | .ok (.found _ (.device .full)) => if content.isEmpty then .ok files else .error .noSpace
  | .ok (.found _ (.device .terminal)) => .error .noDevice
  | .ok (.found _ (.device _)) => .ok files
  | .ok (.found _ (.program _)) => .error .notExecutable
  | .ok (.found _ _) => .error .isADirectory
  | .ok (.vacant location _) => .ok (files.put location (.file content))
  | .error fault => .error fault

/-- Make a directory. -/
def makeDirectory (files : FileSystem) (path : Path) : Except FileFault FileSystem :=
  match files.resolve .entry path with
  | .ok (.found _ _) => .error .alreadyExists
  | .ok (.vacant location _) => .ok (files.put location .directory)
  | .error fault => .error fault

/-- Make a directory, which may be there already. -/
def ensureDirectory (files : FileSystem) (path : Path) : Option FileFault × FileSystem :=
  match files.makeDirectory path with
  | .ok files => (none, files)
  | .error fault => (if files.isDirectory path then none else some fault, files)

/-- Make a directory and the missing ones above it, of which there are fewer than a given number. -/
def makeDirectoriesUpTo (files : FileSystem) : Nat → Path → Option FileFault × FileSystem
  | 0, _ => (some .notFound, files)
  | bound + 1, path =>
    if path.isEmpty then (none, files)
    else match files.makeDirectory path with
      | .error .notFound =>
        match path.parent? with
        | none => (some .notFound, files)
        | some parent =>
          match makeDirectoriesUpTo files bound parent with
          | (none, files) => files.ensureDirectory path
          | failed => failed
      | _ => files.ensureDirectory path

/-- Make a directory and the missing ones above it.  Each of them has a shorter path. -/
def makeDirectories (files : FileSystem) (path : Path) : Option FileFault × FileSystem :=
  files.makeDirectoriesUpTo (path.length + 1) path

/-- Move a file or a link to another path, in the place of a file or a link that stands there. -/
def replace (files : FileSystem) (source target : Path) : Except FileFault FileSystem :=
  match files.resolve .entry source with
  | .error fault => .error fault
  | .ok (.vacant _ _) => .error .notFound
  | .ok (.found _ .directory) => .error .isADirectory
  | .ok (.found location node) =>
    match files.resolve .entry target with
    | .error fault => .error fault
    | .ok (.found _ .directory) => .error .isADirectory
    | .ok (.vacant _ true) => .error .notADirectory
    | .ok (.vacant other false) => .ok ((files.erase location).put other node)
    | .ok (.found other _) =>
      if target.getLast? = some '/' then .error .notADirectory
      else if other = location then .ok files
      else .ok ((files.erase location).put other node)

/-- Make a symbolic link. -/
def makeLink (files : FileSystem) (path target : Path) : Except FileFault FileSystem :=
  match files.resolve .entry path with
  | .ok (.found _ _) => .error .alreadyExists
  | .ok (.vacant location false) => .ok (files.put location (.link target))
  | .ok (.vacant _ true) => .error .notFound
  | .error fault => .error fault

/-- Remove a file or a link. -/
def remove (files : FileSystem) (path : Path) : Except FileFault FileSystem :=
  match files.resolve .entry path with
  | .ok (.found _ .directory) => .error .isADirectory
  | .ok (.found location _) => .ok (files.erase location)
  | .ok (.vacant _ _) => .error .notFound
  | .error fault => .error fault

/-- What stands below a directory, by the path from there and in the order of the paths' characters. -/
def listing (files : FileSystem) (directory : Location) : List (Path × Node) :=
  let below := files.nodes.filterMap fun entry ↦
    if directory.isPrefixOf entry.1 && entry.1 != directory then
      some (Text.join ['/'] (entry.1.drop directory.length), entry.2)
    else none
  below.mergeSort fun a b ↦ Text.compare a.1 b.1 != .gt

/-- The file system without what stands at a location and below it. -/
def eraseTree (files : FileSystem) (location : Location) : FileSystem :=
  { files with nodes := files.nodes.filter fun entry ↦ !location.isPrefixOf entry.1 }

/-- The file system with what stands at a location and below it at another one as well. -/
def copyTree (files : FileSystem) (source target : Location) : FileSystem :=
  (files.nodes.filter fun entry ↦ source.isPrefixOf entry.1).foldl (fun files entry ↦
    let location := target ++ entry.1.drop source.length
    let files := files.put location entry.2
    if files.runnable.contains entry.1 then { files with runnable := location :: files.runnable }
    else files) files

/-- The names in a directory with what they stand for, in the order of their characters. -/
def children (files : FileSystem) (directory : Location) : List (Text × Node) :=
  let inside := files.nodes.filterMap fun entry ↦
    if entry.1.length = directory.length + 1 && directory.isPrefixOf entry.1 then
      entry.1.getLast?.map fun name ↦ (name, entry.2)
    else none
  inside.mergeSort fun a b ↦ Text.compare a.1 b.1 != .gt

end CodeRepair.FileSystem
