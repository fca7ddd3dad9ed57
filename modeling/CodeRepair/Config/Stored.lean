import CodeRepair.Config.Reader
import CodeRepair.Config.Writer
import CodeRepair.Failure
import CodeRepair.FileSystem.Operation

/-!
# Stored configurations

A configuration that is not there is the default one.  A configuration is written to a temporary file
beside its own, which then takes the place of the old one, so the old one stays whole until the new
one is.
-/

namespace CodeRepair.Config

/-- Why a configuration is not loaded. -/
inductive LoadFault
  | unreadable (path : Path) (fault : FileFault)
  | malformed (path : Path)
  | invalid (fault : Fault)
  deriving DecidableEq, Repr

/-- A fault with its causes. -/
def LoadFault.failure : LoadFault → Failure
  | unreadable path fault => ["read ".toList ++ path, fault.message]
  | malformed path => ["parse ".toList ++ path]
  | invalid fault => [fault.message]

/-- The wording of a fault without its causes. -/
def LoadFault.message (fault : LoadFault) : Text :=
  fault.failure.head?.getD []

/-- A configuration, if it is valid. -/
def checked (config : Config) : Except LoadFault Config :=
  match config.fault? with
  | some fault => .error (.invalid fault)
  | none => .ok config

/-- The configuration at a path. -/
def load (files : FileSystem) (path : Path) : Except LoadFault Config :=
  if files.contains path then
    match files.readText path with
    | .error fault => .error (.unreadable path fault)
    | .ok text =>
      match read? text with
      | none => .error (.malformed path)
      | some config => config.checked
  else checked {}

/-- Why a configuration is not stored. -/
inductive StoreFault
  | invalid (fault : Fault)
  | unwritable
  | noDirectory (path : Path) (fault : FileFault)
  | noTemporary (path : Path) (fault : FileFault)
  | notReplaced (path : Path) (fault : FileFault)
  deriving DecidableEq, Repr

/-- A fault with its causes. -/
def StoreFault.failure : StoreFault → Failure
  | invalid fault => [fault.message]
  | unwritable => ["serialize config toml".toList]
  | noDirectory path fault => ["create directory ".toList ++ path, fault.message]
  | noTemporary path fault => ["write temp config ".toList ++ path, fault.message]
  | notReplaced path fault => ["replace config ".toList ++ path, fault.message]

/-- The wording of a fault without its causes. -/
def StoreFault.message (fault : StoreFault) : Text :=
  fault.failure.head?.getD []

/-- The path of the temporary file. -/
def temporary (path : Path) : Path :=
  path.withExtension "toml.tmp".toList

/-- Put a text in the place of a file as a whole. -/
def storeText (files : FileSystem) (path : Path) (text : Text) : Option StoreFault × FileSystem :=
  let parent := (path.parent?).getD []
  match files.makeDirectories parent with
  | (some fault, files) => (some (.noDirectory parent fault), files)
  | (none, files) =>
    match files.write (temporary path) (Text.encode text) with
    | .error fault => (some (.noTemporary (temporary path) fault), files)
    | .ok files =>
      match files.replace (temporary path) path with
      | .error fault => (some (.notReplaced path fault), files)
      | .ok files => (none, files)

/-- Store a configuration, if it is valid and can be written. -/
def store (files : FileSystem) (path : Path) (config : Config) : Option StoreFault × FileSystem :=
  match config.fault? with
  | some fault => (some (.invalid fault), files)
  | none =>
    match config.write? with
    | none => (some .unwritable, files)
    | some text => storeText files path text

end CodeRepair.Config
