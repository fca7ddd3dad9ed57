import CodeRepair.Analysis
import CodeRepair.Finding.Collection

/-!
# One lint

A document is analyzed, the output is read for findings, and the findings are published for the
document that is in view by then, or for none.  A failed analysis is told to the user and publishes
nothing.
-/

namespace CodeRepair

/-- What a lint came to. -/
structure LintReport where
  run : AnalysisRun
  records : List Record
  published : Bool
  deriving DecidableEq, Repr

namespace Lint

/-- How the user is told that the analysis of a document failed. -/
def failureNotice (document : DocumentId) (message : Text) : Notice :=
  .error ("analysis failed for ".toList ++ document.path ++ ": ".toList ++ message)

/-- One lint in a world: the report, the journal, and the world after it.  Which document is in view
is asked of the world after the analysis. -/
def run {σ : Type} (analyzer : Analyzer σ) (active : σ → Option DocumentId) (world : σ)
    (document : Document) : LintReport × Journal × σ :=
  let (run, journal, world) := analyzer.run world document
  match run.status with
  | .failed message =>
    (⟨run, [], false⟩, journal ++ [.notice (failureNotice document.id message)], world)
  | _ =>
    let records := Record.parse run.rawOutput
    match active world with
    | some target =>
      (⟨run, records, true⟩,
        journal ++ [.inquiry, .publication target (records.map .ofRecord)], world)
    | none => (⟨run, records, false⟩, journal ++ [.inquiry], world)

end Lint

namespace Collection

/-- The collection after the publications of a journal. -/
def apply (collection : Collection) (journal : Journal) : Collection :=
  journal.publications.foldl (fun collection set ↦ collection.replace set.1 set.2) collection

end Collection

end CodeRepair
