import CodeRepair.Chat.Request
import CodeRepair.Finding.Diagnostic
import CodeRepair.Notice

/-!
# Journals

A flow acts on its surroundings: it runs the analyzer, asks the model, tells the user, asks which
document is in view and publishes diagnostics.  Its journal lists these actions in their order.
-/

namespace CodeRepair

/-- One action of a flow. -/
inductive Action
  /-- The user is told something. -/
  | notice (notice : Notice)
  /-- The analyzer is run on a text. -/
  | analysis (input : Text)
  /-- The model is asked. -/
  | request (request : Chat.Request)
  /-- The document in view is asked for. -/
  | inquiry
  /-- The diagnostics of a document are replaced. -/
  | publication (document : DocumentId) (diagnostics : List Diagnostic)
  deriving DecidableEq, Repr

/-- The actions of a flow in order. -/
abbrev Journal := List Action

namespace Journal

/-- What the user was told. -/
def notices (journal : Journal) : List Notice :=
  journal.filterMap fun
    | .notice notice => some notice
    | _ => none

/-- The texts that the analyzer was run on. -/
def analyses (journal : Journal) : List Text :=
  journal.filterMap fun
    | .analysis input => some input
    | _ => none

/-- What the model was asked. -/
def requests (journal : Journal) : List Chat.Request :=
  journal.filterMap fun
    | .request request => some request
    | _ => none

/-- What was published, and for which document. -/
def publications (journal : Journal) : List (DocumentId × List Diagnostic) :=
  journal.filterMap fun
    | .publication document diagnostics => some (document, diagnostics)
    | _ => none

end Journal

end CodeRepair
