import CodeRepair.Document.Stored
import CodeRepair.Lint

/-!
# Refreshes

A refresh loads a document from its file, analyzes it and publishes the findings, unless the file is
gone by then.  Several refreshes share one collection and run side by side, so a refresh is also
described step by step: between two steps anything may happen to the files and to the collection.
-/

namespace CodeRepair.Refresh

/-- One refresh as a whole, in a world with files in it. -/
def run {σ : Type} (analyzer : Analyzer σ) (files : σ → FileSystem) (world : σ) (path : Path) :
    Journal × σ :=
  match Document.load (files world) path with
  | .error failure => ([.notice (.error failure.message)], world)
  | .ok document =>
    let active := fun world ↦
      if (files world).contains document.id.path then some document.id else none
    let (_, journal, world) := Lint.run analyzer active world document
    (journal, world)

/-! ## Step by step -/

/-- How far a refresh has come. -/
inductive Phase
  | waiting (path : Path)
  | loaded (document : Document)
  | analyzed (document : Document) (output : Text)
  /-- The file was still there. -/
  | confirmed (document : Document) (output : Text)
  | ended
  deriving DecidableEq, Repr

/-- The next step of a refresh, from what the world shows at that moment: the files, and the answer of
the analyzer if it is run now. -/
def Phase.next (files : FileSystem) (answer : AnalyzerAnswer) : Phase → Phase × Journal
  | waiting path =>
    match Document.load files path with
    | .error failure => (ended, [.notice (.error failure.message)])
    | .ok document => (loaded document, [])
  | loaded document =>
    let told : Journal :=
      .analysis document.text :: answer.lines.map fun line ↦ .notice (.error line)
    match answer.output with
    | .ok output => (analyzed document output, told)
    | .error failure => (ended, told ++ [.notice (Lint.failureNotice document.id failure.message)])
  | analyzed document output =>
    (if files.contains document.id.path then confirmed document output else ended, [.inquiry])
  | confirmed document output =>
    (ended, [.publication document.id ((Record.parse output).map .ofRecord)])
  | ended => (ended, [])

end CodeRepair.Refresh
