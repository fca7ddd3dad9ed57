import CodeRepair.Proofs.Config.Stored
import CodeRepair.Proofs.FileSystem.Directory
import CodeRepair.Proofs.FileSystem.Ending

/-!
# Storing a configuration

A configuration is written to a temporary file beside its own, whose name is never that of its own, and then
moved.  So what stands at the path is old as a whole or new as a whole, whichever step fails.  The temporary
file is made in the place of one that stands there already: the move takes it away, and a move that fails
leaves it.
-/

namespace CodeRepair.Config

variable {files later : FileSystem} {path : Path} {config : Config} {fault? : Option StoreFault}

/-! ## The name of the temporary file -/

end CodeRepair.Config
