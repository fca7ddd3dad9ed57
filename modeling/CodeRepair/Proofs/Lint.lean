import CodeRepair.Lint
import CodeRepair.Proofs.Journal

/-!
# What one lint does

A lint runs the analyzer once and tells the user what it wrote to its error output.  If the analysis
failed, the user is told so and that is all: nobody asks which document is in view, and the published
diagnostics stay as they are.  If it completed, the document in view is asked for after that, and its
diagnostics are replaced once, if there is such a document.
-/

namespace CodeRepair

/-- An analyzer that also lists the documents it is run on. -/
def Analyzer.listing {σ : Type} (analyzer : Analyzer σ) : Analyzer (σ × List Document) :=
  ⟨fun world document ↦
    let (answer, next) := analyzer.analyze world.1 document
    (answer, next, world.2 ++ [document])⟩

namespace Lint

variable {σ : Type}

/-- What is done while a text is analyzed, up to the answer. -/
def analysisActions (input : Text) (lines : List Text) : Journal :=
  .analysis input :: lines.map fun line ↦ .notice (.error line)

/-- A lint is what its analysis answers, and after an output also what is in view then. -/
theorem run_eq (analyzer : Analyzer σ) (active : σ → Option DocumentId) (world : σ)
    (document : Document) :
    run analyzer active world document =
      let answer := (analyzer.analyze world document).1
      let next := (analyzer.analyze world document).2
      match answer.output with
      | .error failure =>
        (⟨⟨document.id, document.text, [], .failed failure.message⟩, [], false⟩,
          analysisActions document.text answer.lines ++
            [.notice (failureNotice document.id failure.message)], next)
      | .ok output =>
        (⟨⟨document.id, document.text, output, .completed⟩, Record.parse output,
            (active next).isSome⟩,
          analysisActions document.text answer.lines ++ .inquiry ::
            (active next).toList.map fun target ↦
              .publication target ((Record.parse output).map .ofRecord), next) := by
  rcases hanswer : analyzer.analyze world document with ⟨⟨lines, output⟩, next⟩
  simp only [run, Analyzer.run, hanswer, AnalysisRun.finish]
  cases output with
  | error failure => rfl
  | ok output => cases active next <;> rfl

/-! ## Failed and completed lints -/

/-- A lint whose analysis wrote lines of error output and failed. -/
structure Failed (document : Document) (lines : List Text) (failure : Failure) (report : LintReport)
    (journal : Journal) : Prop where
  run : report.run = ⟨document.id, document.text, [], .failed failure.message⟩
  records : report.records = []
  published : report.published = false
  journal : journal = .analysis document.text ::
    (lines.map (fun line ↦ .notice (.error line)) ++
      [.notice (.error ("analysis failed for ".toList ++ document.id.path ++ ": ".toList ++
        failure.message))])

/-- A lint whose analysis wrote lines of error output and gave an output, while a document is in view
or none. -/
structure Completed (document : Document) (lines : List Text) (output : Text)
    (target? : Option DocumentId) (report : LintReport) (journal : Journal) : Prop where
  run : report.run = ⟨document.id, document.text, output, .completed⟩
  records : report.records = Record.parse output
  published : report.published = target?.isSome
  journal : journal = .analysis document.text ::
    (lines.map (fun line ↦ .notice (.error line)) ++ .inquiry ::
      target?.toList.map fun target ↦ .publication target (report.records.map .ofRecord))

section

variable {document : Document} {lines : List Text} {failure : Failure} {output : Text}
  {target? : Option DocumentId} {report : LintReport} {journal : Journal}

theorem Failed.analyses (h : Failed document lines failure report journal) :
    journal.analyses = [document.text] := by
  rw [h.journal, ← List.cons_append, Journal.analyses_append, Journal.analyses_analysis]
  rfl

theorem Failed.notices (h : Failed document lines failure report journal) :
    journal.notices = lines.map .error ++ [.error ("analysis failed for ".toList ++
      document.id.path ++ ": ".toList ++ failure.message)] := by
  rw [h.journal, ← List.cons_append, Journal.notices_append, Journal.notices_analysis]
  rfl

theorem Failed.publications (h : Failed document lines failure report journal) :
    journal.publications = [] := by
  rw [h.journal, ← List.cons_append, Journal.publications_append, Journal.publications_analysis]
  rfl

theorem Failed.inquiry_not_mem (h : Failed document lines failure report journal) :
    .inquiry ∉ journal := by
  simp [h.journal]

theorem Completed.analyses (h : Completed document lines output target? report journal) :
    journal.analyses = [document.text] := by
  rw [h.journal, ← List.cons_append, Journal.analyses_append, Journal.analyses_analysis]
  cases target? <;> rfl

theorem Completed.notices (h : Completed document lines output target? report journal) :
    journal.notices = lines.map .error := by
  rw [h.journal, ← List.cons_append, Journal.notices_append, Journal.notices_analysis]
  cases target? <;> exact List.append_nil _

theorem Completed.publications (h : Completed document lines output target? report journal) :
    journal.publications = target?.toList.map fun target ↦
      (target, (Record.parse output).map .ofRecord) := by
  rw [h.journal, ← List.cons_append, Journal.publications_append, Journal.publications_analysis,
    ← h.records]
  cases target? <;> rfl

end

/-! ## One lint as a whole -/

section

variable (analyzer : Analyzer σ) (active : σ → Option DocumentId) (world : σ) (document : Document)

theorem failed_run {failure : Failure}
    (h : (analyzer.analyze world document).1.output = .error failure) :
    Failed document (analyzer.analyze world document).1.lines failure
      (run analyzer active world document).1 (run analyzer active world document).2.1 := by
  rw [run_eq]
  simp only [h]
  exact ⟨rfl, rfl, rfl, rfl⟩

theorem completed_run {output : Text}
    (h : (analyzer.analyze world document).1.output = .ok output) :
    Completed document (analyzer.analyze world document).1.lines output
      (active (analyzer.analyze world document).2)
      (run analyzer active world document).1 (run analyzer active world document).2.1 := by
  rw [run_eq]
  simp only [h]
  exact ⟨rfl, rfl, rfl, rfl⟩

/-- The world changes by one analysis and by nothing else. -/
theorem world_run :
    (run analyzer active world document).2.2 = (analyzer.analyze world document).2 := by
  rw [run_eq]
  dsimp only
  split <;> rfl

/-- An analyzer that lists the documents it is run on is run on the document once. -/
theorem run_listing (listed : List Document) :
    run analyzer.listing (fun world ↦ active world.1) (world, listed) document =
      ((run analyzer active world document).1, (run analyzer active world document).2.1,
        (analyzer.analyze world document).2, listed ++ [document]) := by
  have hlisting : analyzer.listing.analyze (world, listed) document =
      ((analyzer.analyze world document).1, (analyzer.analyze world document).2,
        listed ++ [document]) := rfl
  rw [run_eq, run_eq, hlisting]
  cases houtput : (analyzer.analyze world document).1.output <;> simp only [houtput]

/-- What is in view does not count if the analysis failed. -/
theorem run_congr_of_error {failure : Failure}
    (h : (analyzer.analyze world document).1.output = .error failure)
    (other : σ → Option DocumentId) :
    run analyzer other world document = run analyzer active world document := by
  rw [run_eq, run_eq]
  simp only [h]

end

/-- One lint runs the analyzer once, on the document as it is, and the run comes to an end.  The user is
told the lines of error output in order, and one thing more exactly if the analysis failed.  Then nothing
was found, nobody asks what is in view, and a collection stays as it is.  Otherwise the findings are
those in the output, and after the analysis they replace, once, what a collection holds for the document
in view, if there is one. -/
theorem run_acts_once (analyzer : Analyzer σ) (active : σ → Option DocumentId) (world : σ)
    (document : Document) :
    let answer := (analyzer.analyze world document).1
    let next := (analyzer.analyze world document).2
    let report := (run analyzer active world document).1
    let journal := (run analyzer active world document).2.1
    (∀ listed, run analyzer.listing (fun world ↦ active world.1) (world, listed) document =
        (report, journal, next, listed ++ [document])) ∧
      (run analyzer active world document).2.2 = next ∧
      journal.analyses = [document.text] ∧ report.run.status ≠ .running ∧
      match answer.output with
      | .error failure =>
        Failed document answer.lines failure report journal ∧
          journal.notices = answer.lines.map .error ++ [.error ("analysis failed for ".toList ++
            document.id.path ++ ": ".toList ++ failure.message)] ∧
          journal.publications = [] ∧ .inquiry ∉ journal ∧
          (∀ other, run analyzer other world document = run analyzer active world document) ∧
          ∀ collection : Collection, collection.apply journal = collection
      | .ok output =>
        Completed document answer.lines output (active next) report journal ∧
          journal.notices = answer.lines.map .error ∧
          journal.publications = (active next).toList.map (fun target ↦
            (target, (Record.parse output).map .ofRecord)) ∧
          ∀ collection : Collection, collection.apply journal =
            match active next with
            | some target => collection.replace target ((Record.parse output).map .ofRecord)
            | none => collection := by
  intro answer next report journal
  refine ⟨run_listing analyzer active world document, world_run analyzer active world document, ?_⟩
  cases hanswer : answer.output with
  | error failure =>
    have h := failed_run analyzer active world document hanswer
    refine ⟨h.analyses, ?_, h, h.notices, h.publications, h.inquiry_not_mem,
      run_congr_of_error analyzer active world document hanswer, fun collection ↦ ?_⟩
    · rw [h.run]
      exact AnalysisStatus.noConfusion
    · rw [Collection.apply, h.publications]
      rfl
  | ok output =>
    have h := completed_run analyzer active world document hanswer
    refine ⟨h.analyses, ?_, h, h.notices, h.publications, fun collection ↦ ?_⟩
    · rw [h.run]
      exact AnalysisStatus.noConfusion
    · rw [Collection.apply, h.publications]
      cases active next <;> rfl

end Lint

end CodeRepair
