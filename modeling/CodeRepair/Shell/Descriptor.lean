import CodeRepair.Shell.Condition
import CodeRepair.Shell.State

/-!
# Descriptors

A redirection makes a descriptor lead to a file, to the same as another descriptor, to a text, or to
nothing.  A file that is opened for output is made or emptied at once.
-/

namespace CodeRepair.Shell

namespace State

/-- What a stream leads to, as far as conditions go. -/
def kindOf (state : State) (index : Nat) : FileKind :=
  match state.streams[index]? with
  | some (.file location _ _) =>
    match state.files.lookup location with
    | some (.file content) => .file content.length
    | _ => .file 0
  | some (.device _) => .device
  | some .directory => .directory
  | _ => .pipe

/-- What the descriptors lead to. -/
def descriptorKinds (state : State) : List (Nat × FileKind) :=
  state.own.descriptors.map fun entry ↦ (entry.1, state.kindOf entry.2)

/-- The files as conditions see them. -/
def view (state : State) : View :=
  ⟨state.files, state.descriptorKinds⟩

end State

/-- A descriptor leads to a stream, or to nothing. -/
def setDescriptor (descriptor : Nat) (index : Option Nat) : Run Unit :=
  changeOwn fun own ↦
    let others := own.descriptors.filter fun entry ↦ entry.1 != descriptor
    { own with
      descriptors := match index with
        | some index => others ++ [(descriptor, index)]
        | none => others }

/-- One more stream. -/
def openStream (stream : Stream) : Run Nat := do
  let (index, state) := (← get).addStream stream
  set state
  return index

/-- The reason that an opened file is missing. -/
def readFaultReason (fault : FileFault) : Bytes :=
  if fault = .notFound || fault = .notADirectory then bytes "No such file" else Text.encode fault.reason

/-- The reason that a file cannot be made. -/
def writeFaultReason (fault : FileFault) : Bytes :=
  if fault = .notFound || fault = .notADirectory then bytes "Directory nonexistent"
  else Text.encode fault.reason

/-- The stream of what a path leads to. -/
def streamAt (location : Location) (appends : Bool) : Node → Stream
  | .directory => .directory
  | .device device => .device device
  | _ => .file location 0 appends

/-- The shell says that a path cannot be opened or made, and gives up. -/
def refusePath {α : Type} (verb : String) (path reason : Bytes) : Run α :=
  giveUp (bytes "cannot " ++ bytes verb ++ bytes " " ++ path ++ bytes ": " ++ reason)

/-- A stream that reads what a path leads to. -/
def openForInput (path : Bytes) : Run Nat := do
  let state ← get
  match View.descriptor? path with
  | some n =>
    match state.indexOf n with
    | some index => return index
    | none => refusePath "open" path (bytes "No such file")
  | none =>
    match state.files.locate (argument path) with
    | .ok (location, node) => openStream (streamAt location false node)
    | .error fault => refusePath "open" path (readFaultReason fault)

/-- A stream that writes to what a path leads to, which is made if it is missing. -/
def openForOutput (direction : Direction) (path : Bytes) : Run Nat := do
  let state ← get
  match View.descriptor? path with
  | some n =>
    match state.indexOf n with
    | some index => return index
    | none => refusePath "create" path (bytes "Directory nonexistent")
  | none =>
    let appends := direction == .append
    let empties := direction == .write || direction == .clobber
    let create := do
      match state.files.write (argument path) [] with
      | .ok files =>
        set { state with files }
        match files.locate (argument path) with
        | .ok (location, node) => openStream (streamAt location appends node)
        | .error fault => refusePath "create" path (writeFaultReason fault)
      | .error fault => refusePath "create" path (writeFaultReason fault)
    match state.files.locate (argument path) with
    | .ok (_, .directory) => refusePath "create" path (bytes "Is a directory")
    | .ok (location, node) =>
      match node with
      | .file _ =>
        if direction = .write && state.has 'C' then refusePath "create" path (bytes "File exists")
        else if empties then create
        else openStream (.file location 0 appends)
      | node => openStream (streamAt location appends node)
    | .error _ => create

/-- A redirection whose target is known. -/
inductive Target
  | path (direction : Direction) (path : Bytes)
  | same (other : Nat)
  | closed
  | document (content : Bytes)

/-- A redirection takes effect. -/
def redirect (descriptor : Nat) : Target → Run Unit
  | .path .read path => do setDescriptor descriptor (some (← openForInput path))
  | .path direction path => do setDescriptor descriptor (some (← openForOutput direction path))
  | .closed => setDescriptor descriptor none
  | .document content => do
    setDescriptor descriptor (some (← openStream (.source content (some 0))))
  | .same other => do
    let state ← get
    match state.indexOf other with
    | some index => setDescriptor descriptor (some index)
    | none => giveUp (ofNatural other ++ bytes ": Bad file descriptor")

end CodeRepair.Shell
