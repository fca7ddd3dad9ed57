import CodeRepair.Path.Basic

/-!
# File systems

A file system maps locations to files, directories, symbolic links, devices and programs.  A location
is the list of names from the root, without any link on the way; the root is always a directory.  The
working directory is where relative paths begin.
-/

namespace CodeRepair

/-- Where something is: the names from the root to it. -/
abbrev Location := List Text

/-- A file that is no stored content. -/
inductive Device
  /-- It is empty and takes everything. -/
  | null
  /-- It never has room for anything. -/
  | full
  /-- It never ends. -/
  | zero
  /-- The terminal, of which there is none. -/
  | terminal
  deriving DecidableEq, Repr

/-- What stands at a location. -/
inductive Node
  | file (content : List UInt8)
  | directory
  | link (target : Path)
  | device (device : Device)
  /-- A program that comes with the machine. -/
  | program (name : Text)
  deriving DecidableEq, Repr

/-- A file system. -/
structure FileSystem where
  nodes : List (Location × Node) := []
  workingDirectory : Location := []
  /-- The files that may be run. -/
  runnable : List Location := []
  deriving DecidableEq, Repr

/-- Why an operation on files fails. -/
inductive FileFault
  | notFound
  | notExecutable
  | alreadyExists
  | notADirectory
  | isADirectory
  | nameTooLong
  | tooManyLinks
  | notEmpty
  | noSpace
  | noDevice
  | badDescriptor
  | invalid
  | malformedProgram
  /-- The path holds the character that ends paths elsewhere. -/
  | pathHoldsNull
  | notUtf8
  deriving DecidableEq, Repr

namespace FileFault

/-- The number that the operating system has for a fault, if the fault is one of its own. -/
def number? : FileFault → Option Nat
  | notFound => some 2
  | noDevice => some 6
  | malformedProgram => some 8
  | badDescriptor => some 9
  | notExecutable => some 13
  | alreadyExists => some 17
  | notADirectory => some 20
  | isADirectory => some 21
  | invalid => some 22
  | noSpace => some 28
  | nameTooLong => some 36
  | notEmpty => some 39
  | tooManyLinks => some 40
  | pathHoldsNull => none
  | notUtf8 => none

/-- What is wrong. -/
def reason : FileFault → Text
  | notFound => "No such file or directory".toList
  | noDevice => "No such device or address".toList
  | malformedProgram => "Exec format error".toList
  | badDescriptor => "Bad file descriptor".toList
  | notExecutable => "Permission denied".toList
  | alreadyExists => "File exists".toList
  | notADirectory => "Not a directory".toList
  | isADirectory => "Is a directory".toList
  | invalid => "Invalid argument".toList
  | noSpace => "No space left on device".toList
  | notEmpty => "Directory not empty".toList
  | nameTooLong => "File name too long".toList
  | tooManyLinks => "Too many levels of symbolic links".toList
  | pathHoldsNull => "file name contained an unexpected NUL byte".toList
  | notUtf8 => "stream did not contain valid UTF-8".toList

/-- The wording of a fault, with its number if it has one. -/
def message (fault : FileFault) : Text :=
  match fault.number? with
  | some number => fault.reason ++ " (os error ".toList ++ Text.ofNat number ++ [')']
  | none => fault.reason

end FileFault

/-- The absolute path of a location. -/
def Location.path (location : Location) : Path :=
  '/' :: Text.join ['/'] location

namespace FileSystem

/-- What stands at a location. -/
def lookup (files : FileSystem) (location : Location) : Option Node :=
  if location = [] then some .directory
  else (files.nodes.find? fun entry ↦ entry.1 == location).map Prod.snd

/-- The entries with one more node, in the place of the one that stood there. -/
def putIn (location : Location) (node : Node) : List (Location × Node) → List (Location × Node)
  | [] => [(location, node)]
  | entry :: rest =>
    if entry.1 = location then (location, node) :: rest else entry :: putIn location node rest

/-- The file system with a node at a location. -/
def put (files : FileSystem) (location : Location) (node : Node) : FileSystem :=
  { files with nodes := putIn location node files.nodes }

/-- The file system with nothing at a location. -/
def erase (files : FileSystem) (location : Location) : FileSystem :=
  { files with nodes := files.nodes.filter fun entry ↦ entry.1 != location }

theorem find?_putIn (location other : Location) (node : Node) (nodes : List (Location × Node)) :
    (putIn location node nodes).find? (fun entry ↦ entry.1 == other) =
      if other = location then some (location, node)
      else nodes.find? fun entry ↦ entry.1 == other := by
  induction nodes with
  | nil => by_cases h : other = location <;> simp [putIn, h, Ne.symm]
  | cons entry rest ih =>
    by_cases he : entry.1 = location
    · by_cases h : other = location
      · simp [putIn, he, h]
      · simp [putIn, he, h, Ne.symm h]
    · by_cases h : other = location
      · subst h
        simp [putIn, he, ih]
      · simp [putIn, he, h, ih, List.find?_cons]

/-- A node that is put somewhere stands there, and nothing else changes. -/
theorem lookup_put (files : FileSystem) {location : Location} (h : location ≠ []) (node : Node)
    (other : Location) :
    (files.put location node).lookup other =
      if other = location then some node else files.lookup other := by
  by_cases ho : other = []
  · subst ho
    simp [lookup, Ne.symm h]
  · by_cases he : other = location <;> simp [lookup, put, ho, he, find?_putIn]
    simp [h]

/-- What is erased is gone, and nothing else changes. -/
theorem lookup_erase (files : FileSystem) {location : Location} (h : location ≠ [])
    (other : Location) :
    (files.erase location).lookup other = if other = location then none else files.lookup other := by
  by_cases ho : other = []
  · subst ho
    simp [lookup, Ne.symm h]
  · by_cases he : other = location
    · subst he
      simp [lookup, erase, ho]
    · simp only [lookup, erase, ho, he, if_false, List.find?_filter]
      congr 2
      funext entry
      by_cases hx : entry.1 = other
      · simp [hx, he]
      · simp [hx]

end FileSystem

end CodeRepair
