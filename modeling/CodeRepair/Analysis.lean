import CodeRepair.Journal

/-!
# Analyses

An analyzer is run on a document in some world, which it may change.  It passes on the lines of its
error output and then gives its output or a failure.  A run records what it was given and how it
ended; a failed run has no output.
-/

namespace CodeRepair

/-- What one run of an analyzer gives. -/
structure AnalyzerAnswer where
  /-- The lines of its error output. -/
  lines : List Text
  /-- Its output, or what went wrong. -/
  output : Except Failure Text

/-- An analyzer in a world of type `σ`. -/
structure Analyzer (σ : Type) where
  analyze : σ → Document → AnalyzerAnswer × σ

/-- How a run of an analyzer stands. -/
inductive AnalysisStatus
  | running
  | completed
  | failed (message : Text)
  deriving DecidableEq, Repr

/-- A run of an analyzer. -/
structure AnalysisRun where
  document : DocumentId
  inputText : Text
  rawOutput : Text
  status : AnalysisStatus
  deriving DecidableEq, Repr

namespace AnalysisRun

/-- A run that has begun. -/
def start (document : Document) : AnalysisRun :=
  ⟨document.id, document.text, [], .running⟩

/-- A run that has ended with an answer. -/
def finish (run : AnalysisRun) : Except Failure Text → AnalysisRun
  | .ok output => { run with rawOutput := output, status := .completed }
  | .error failure => { run with status := .failed failure.message }

/-- Whether a run came to its end. -/
def isCompleted (run : AnalysisRun) : Bool :=
  run.status == .completed

end AnalysisRun

namespace Analyzer

/-- One run of an analyzer on a document: what it gave, what was done for it, and the world after
it.  Each line of the error output is told to the user as an error. -/
def run {σ : Type} (analyzer : Analyzer σ) (world : σ) (document : Document) :
    AnalysisRun × Journal × σ :=
  let (answer, world) := analyzer.analyze world document
  ((AnalysisRun.start document).finish answer.output,
    .analysis document.text :: answer.lines.map fun line ↦ .notice (.error line), world)

end Analyzer

end CodeRepair
