import CodeRepair.Proofs.Repair.SideBindings

/-!
# Repairs of documents

The analysis in front of a repair only matters by its output: a failed analysis is the same for the
model as none, and so is one without output.  What the user is told of a repair stands between a
beginning and an end, first the analysis and then the stages, and the end tells whether the repair
succeeded.
-/

namespace CodeRepair

namespace Journal

/-- Stages run no analysis. -/
theorem analyses_flatMap_ofStage (asked : List (Stage × Chat.Request)) :
    analyses (asked.flatMap fun asked ↦ ofStage asked.1.label asked.2) = [] := by
  induction asked with
  | nil => rfl
  | cons first rest ih =>
    rw [List.flatMap_cons, analyses_append, ih]
    rfl

end Journal

namespace Repair

variable {σ τ : Type}

/-! ## The analysis

What an analyzer answers decides what is done before the stages; without an analyzer there is no
answer. -/

/-- How the user is told that there are no findings because the analysis failed. -/
def failureNotices : Except Failure Text → List Notice
  | .ok _ => []
  | .error failure =>
    [.error ("analysis failed, repairing without findings: ".toList ++ failure.message)]

/-- What is done for the analysis. -/
def analysisActions (document : Document) : Option AnalyzerAnswer → Journal
  | none => []
  | some answer => [.notice (.step "Running analysis".toList), .analysis document.text] ++
    (answer.lines.map Notice.error ++ failureNotices answer.output).map .notice

/-- What the user is told of the analysis. -/
def analysisNotices : Option AnalyzerAnswer → List Notice
  | none => []
  | some answer =>
    [.step "Running analysis".toList] ++ answer.lines.map .error ++ failureNotices answer.output

/-- The side bindings that the analysis gives. -/
def sideOf : Option AnalyzerAnswer → Bindings
  | some ⟨_, .ok output⟩ => { linterOutput := some output }
  | _ => {}

/-- What an analyzer answers, if there is one. -/
def analysisAnswer? (analyzer : Option (Analyzer σ)) (world : σ) (document : Document) :
    Option AnalyzerAnswer :=
  analyzer.map fun analyzer ↦ (analyzer.analyze world document).1

/-- The world after one call of an analyzer, if there is one. -/
def worldAfter (analyzer : Option (Analyzer σ)) (world : σ) (document : Document) : σ :=
  (analyzer.map fun analyzer ↦ (analyzer.analyze world document).2).getD world

theorem findings_eq (analyzer : Option (Analyzer σ)) (world : σ) (document : Document) :
    findings analyzer world document =
      (sideOf (analysisAnswer? analyzer world document),
        analysisActions document (analysisAnswer? analyzer world document),
        worldAfter analyzer world document) := by
  cases analyzer with
  | none => rfl
  | some analyzer =>
    rcases h : analyzer.analyze world document with ⟨⟨lines, output⟩, next⟩
    cases output <;>
      simp [findings, Analyzer.run, h, AnalysisRun.finish, analysisAnswer?, worldAfter, sideOf,
        analysisActions, failureNotices]

theorem requests_analysisActions (document : Document) (answer? : Option AnalyzerAnswer) :
    (analysisActions document answer?).requests = [] := by
  cases answer? with
  | none => rfl
  | some answer =>
    rw [analysisActions, Journal.requests_append, Journal.requests_map_notice]
    rfl

/-- A document is analyzed once if there is an analyzer, and as it stands. -/
theorem analyses_analysisActions (document : Document) (answer? : Option AnalyzerAnswer) :
    (analysisActions document answer?).analyses = answer?.toList.map fun _ ↦ document.text := by
  cases answer? with
  | none => rfl
  | some answer =>
    rw [analysisActions, Journal.analyses_append, Journal.analyses_map_notice]
    rfl

theorem notices_analysisActions (document : Document) (answer? : Option AnalyzerAnswer) :
    (analysisActions document answer?).notices = analysisNotices answer? := by
  cases answer? with
  | none => rfl
  | some answer =>
    rw [analysisActions, Journal.notices_append, Journal.notices_map_notice, List.map_id']
    rfl

/-! ## The stages -/

/-- What a run comes to apart from what the user is told: its outcome, what the model was asked, and
the model after it. -/
def Run.result (run : Run τ) : Outcome × List Chat.Request × τ :=
  (run.outcome, run.journal.requests, run.model)

/-- What a repaired document comes to apart from what the user is told. -/
def DocumentRun.result (run : DocumentRun σ τ) : Outcome × List Chat.Request × τ :=
  (run.outcome, run.journal.requests, run.model)

theorem Outcome.isSuccess_iff {outcome : Outcome} :
    outcome.isSuccess = true ↔ ∃ text, outcome = .succeeded text := by
  cases outcome <;> simp [isSuccess]

/-- An analysis that failed or gave nothing is no analysis to the stages. -/
theorem run_sideOf {output : Except Failure Text} (h : ∀ text, output = .ok text → text = [])
    (lines : List Text) (orchestrator : Orchestrator) (model : Model τ) (code : Text) (state : τ)
    (stages : List Stage) :
    orchestrator.run model (sideOf (some ⟨lines, output⟩)) code state stages =
      orchestrator.run model {} code state stages := by
  have hvalue : (sideOf (some ⟨lines, output⟩)).value .linterOutput =
      ({} : Bindings).value .linterOutput := by
    cases output with
    | error failure => rfl
    | ok text =>
      obtain rfl := h text rfl
      rfl
  exact Orchestrator.runFrom_congr (fun stage _ ↦ Stage.agrees_of_value_eq hvalue stage) 0 code state

section

variable (analyzer : Option (Analyzer σ)) (world : σ) (model : Model τ) (state : τ)
  (document : Document) (stages : List Stage) (settings : Settings)

theorem document_eq :
    Repair.document analyzer world model state document stages settings =
      let run := (Orchestrator.run { settings := settings } model
        (sideOf (analysisAnswer? analyzer world document)) document.text state stages).1
      { outcome := run.outcome
        journal := [.notice (.begun title false)] ++
          analysisActions document (analysisAnswer? analyzer world document) ++ run.journal ++
          [.notice (.finished run.outcome.isSuccess)]
        world := worldAfter analyzer world document
        model := run.model } := by
  simp only [Repair.document, findings_eq]
  rfl

theorem document_result :
    (Repair.document analyzer world model state document stages settings).result =
      (Orchestrator.run { settings := settings } model (sideOf (analysisAnswer? analyzer world document))
        document.text state stages).1.result := by
  have hnotice (notice : Notice) : Journal.requests [.notice notice] = [] := rfl
  simp only [document_eq, DocumentRun.result, Run.result, Journal.requests_append,
    requests_analysisActions, hnotice, List.nil_append, List.append_nil]

variable {analyzer world model state document stages settings}

/-- Each request of a repair is made with its settings. -/
theorem settings_of_mem_requests {request : Chat.Request} (h : request ∈
    (Repair.document analyzer world model state document stages settings).journal.requests) :
    request.model = settings.model ∧ request.temperature = settings.temperature := by
  have hrequests :
      (Repair.document analyzer world model state document stages settings).journal.requests =
        (Orchestrator.run { settings := settings } model
          (sideOf (analysisAnswer? analyzer world document)) document.text state
          stages).1.journal.requests :=
    congrArg (fun result ↦ result.2.1)
      (document_result analyzer world model state document stages settings)
  rw [hrequests] at h
  obtain ⟨i, hi⟩ := List.mem_iff_getElem?.1 h
  obtain ⟨stage, text, -, rfl, -⟩ :=
    (Orchestrator.runFrom_threads _ model _ 0 document.text state stages).request_eq i request hi
  exact ⟨rfl, rfl⟩

end

/-- A repair after a failed analysis comes to the same as one without an analysis, and so does a repair
after an analysis that gave nothing; otherwise the stages get what the analysis gave.  The document is
analyzed once, before the model is asked.  The user is told first that the repair begins, then of the
analysis, then of the stages that the model is asked for, and last whether the repair succeeded. -/
theorem document_bracketed (analyzer : Option (Analyzer σ)) (world : σ) (model : Model τ) (state : τ)
    (document : Document) (stages : List Stage) (settings : Settings) :
    let repair := Repair.document analyzer world model state document stages settings
    let plain :=
      Repair.document (none : Option (Analyzer σ)) world model state document stages settings
    let answer? := analysisAnswer? analyzer world document
    let run := fun side ↦
      (Orchestrator.run { settings := settings } model side document.text state stages).1
    (∀ answer, answer? = some answer →
      match answer.output with
      | .error _ => repair.result = plain.result
      | .ok text => repair.result = (run { linterOutput := some text }).result ∧
        (text = [] → repair.result = plain.result)) ∧
    repair.world = worldAfter analyzer world document ∧
    repair.journal.analyses = answer?.toList.map (fun _ ↦ document.text) ∧
    ∃ succeeded, (succeeded = true ↔ ∃ text, repair.outcome = .succeeded text) ∧
      repair.journal = [.notice (.begun title false)] ++ analysisActions document answer? ++
        (stages.zip repair.journal.requests).flatMap
          (fun asked ↦ [.notice (.step asked.1.label), .request asked.2]) ++
        [.notice (.finished succeeded)] ∧
      repair.journal.notices = [.begun title false] ++ analysisNotices answer? ++
        (stages.take repair.journal.requests.length).map (fun stage ↦ .step stage.label) ++
        [.finished succeeded] := by
  intro repair plain answer? run
  have hrepair := document_eq analyzer world model state document stages settings
  have hresult : repair.result = (run (sideOf answer?)).result :=
    document_result analyzer world model state document stages settings
  have hplain : plain.result = (run {}).result :=
    document_result none world model state document stages settings
  have houtcome : repair.outcome = (run (sideOf answer?)).outcome := congrArg Prod.fst hresult
  have hrequests : repair.journal.requests = (run (sideOf answer?)).journal.requests :=
    congrArg (fun result ↦ result.2.1) hresult
  have hthreads : Orchestrator.Threads { settings := settings } model (sideOf answer?) 0
      document.text state stages (run (sideOf answer?)) _ :=
    Orchestrator.runFrom_threads _ model _ 0 document.text state stages
  have hjournal : repair.journal = [.notice (.begun title false)] ++
      analysisActions document answer? ++ (run (sideOf answer?)).journal ++
      [.notice (.finished repair.outcome.isSuccess)] := by
    rw [houtcome]
    exact congrArg DocumentRun.journal hrepair
  have hstages : (run (sideOf answer?)).journal = (stages.zip repair.journal.requests).flatMap
      (fun asked ↦ [.notice (.step asked.1.label), .request asked.2]) := by
    rw [hrequests]
    exact hthreads.journal_eq
  refine ⟨fun answer hanswer ↦ ?_, congrArg DocumentRun.world hrepair, ?_,
    repair.outcome.isSuccess, Outcome.isSuccess_iff, ?_, ?_⟩
  · obtain ⟨lines, output⟩ := answer
    rw [hresult, hplain, hanswer]
    cases output with
    | error failure =>
      have hnone : ∀ text, (Except.error failure : Except Failure Text) = .ok text → text = [] := nofun
      exact congrArg (·.1.result) (run_sideOf hnone lines _ model document.text state stages)
    | ok text =>
      refine ⟨rfl, ?_⟩
      rintro rfl
      have hnone : ∀ text, (Except.ok [] : Except Failure Text) = .ok text → text = [] :=
        fun text htext ↦ (Except.ok.inj htext).symm
      exact congrArg (·.1.result) (run_sideOf hnone lines _ model document.text state stages)
  · have hnotice (notice : Notice) : Journal.analyses [.notice notice] = [] := rfl
    rw [hjournal, hthreads.journal_eq]
    simp only [Journal.analyses_append, Journal.analyses_flatMap_ofStage, hnotice,
      analyses_analysisActions, List.nil_append, List.append_nil]
  · rw [← hstages]
    exact hjournal
  · have hnotice (notice : Notice) : Journal.notices [.notice notice] = [notice] := rfl
    calc
      repair.journal.notices = _ := congrArg Journal.notices hjournal
      _ = _ := by
        simp only [Journal.notices_append, hnotice, notices_analysisActions, hthreads.notices_eq,
          hrequests]

/-- The analysis tells a line and fails, and the model fails at the second of three stages. -/
theorem document_bracketed_failing :
    let analyzer : Analyzer Nat := ⟨fun calls _ ↦ (⟨["No config file found".toList],
      .error ["spawn command".toList, "not found".toList]⟩, calls + 1)⟩
    let model : Model Nat := ⟨fun calls _ ↦
      (if calls = 0 then .ok "Output: y = 2".toList else .error ["HTTP 500".toList], calls + 1)⟩
    let stage : Stage := ⟨"Linting".toList, "[\x7blinterOutput\x7d] \x7bcode\x7d".toList,
      [.code, .linterOutput]⟩
    let document : Document := ⟨⟨"/mod.py".toList⟩, "x = 1\n".toList⟩
    let stages := [stage, stage, stage]
    let settings : Settings := ⟨"model".toList, ⟨0⟩⟩
    let repair := Repair.document (some analyzer) 0 model 0 document stages settings
    let plain := Repair.document (none : Option (Analyzer Nat)) 0 model 0 document stages settings
    repair.result = plain.result ∧ repair.world = 1 ∧
      repair.outcome = .failed 1 "model request failed (Linting): HTTP 500".toList ∧
      repair.journal.notices = [.begun title false, .step "Running analysis".toList,
        .error "No config file found".toList,
        .error "analysis failed, repairing without findings: spawn command: not found".toList,
        .step "Linting".toList, .step "Linting".toList, .finished false] := by
  intro analyzer model stage document stages settings repair plain
  obtain ⟨hfailed, hworld, -, -⟩ :=
    document_bracketed (some analyzer) 0 model 0 document stages settings
  exact ⟨hfailed _ rfl, hworld, by decide +kernel, by decide +kernel⟩

end Repair

end CodeRepair
