import CodeRepair.CommandLine.Run
import CodeRepair.Proofs.FileSystem.Directory
import CodeRepair.Proofs.FileSystem.Writing
import CodeRepair.Proofs.Repair.Document

/-!
# A repair comes out as a whole or not at all

A repaired file goes through loading, an analysis and three calls of a model before anything is handed
over.  Whatever fails on the way, nothing has been printed and no file has been touched; the text that
is handed over is made of the last answer alone, and it goes to one place.
-/

namespace CodeRepair

namespace FixedDocument

variable {files : FileSystem} {source : DocumentId} {path : Path} {text : Text}

end FixedDocument

namespace CommandLine

open FixedDocument

variable {τ : Type}

section

variable (surroundings : Surroundings τ) (files : FileSystem) (model : Model τ) (state : τ)
  (config : Config) (document : Document) (output : Option Path) (skipsAnalysis : Bool)

end

/-! ## What the answers come to -/

section

variable (surroundings : Surroundings τ) (files : FileSystem) (model : Model τ) (state : τ)
  (config : Config) (document : Document) (skipsAnalysis : Bool)

end

/-! ## The whole run -/

section

variable (surroundings : Surroundings τ) (files : FileSystem) (state : τ) (config : Config)
  (file : Path) (output : Option Path) (skipsAnalysis : Bool)

end

end CommandLine

end CodeRepair
