import CodeRepair.Proofs.Journal
import CodeRepair.Repair

/-!
# How a run threads its texts

A run asks the model once for each stage, in order, until an answer fails.  The requests of a run
and the model's answers to them, asked again from the same state, fix everything else: which stages
were reported, which text each stage worked on, and how the run ended.
-/

namespace CodeRepair

/-- What a model answers to requests in turn. -/
def Model.answers {σ : Type} (model : Model σ) (state : σ) :
    List Chat.Request → List (Except Failure Text)
  | [] => []
  | request :: rest =>
    (model.complete state request).1 :: model.answers (model.complete state request).2 rest

@[simp]
theorem Model.length_answers {σ : Type} (model : Model σ) (state : σ)
    (requests : List Chat.Request) : (model.answers state requests).length = requests.length := by
  induction requests generalizing state with
  | nil => rfl
  | cons request rest ih => simp [answers, ih]

/-- A model after requests in turn. -/
def Model.after {σ : Type} (model : Model σ) (state : σ) (requests : List Chat.Request) : σ :=
  requests.foldl (fun state request ↦ (model.complete state request).2) state

theorem Model.after_cons {σ : Type} (model : Model σ) (state : σ) (request : Chat.Request)
    (rest : List Chat.Request) :
    model.after state (request :: rest) = model.after (model.complete state request).2 rest :=
  rfl

namespace Journal

/-- A stage is reported, and then the model is asked for it. -/
def ofStage (label : Text) (request : Chat.Request) : Journal :=
  [.notice (.step label), .request request]

@[simp]
theorem requests_ofStage (label : Text) (request : Chat.Request) :
    (ofStage label request).requests = [request] := rfl

@[simp]
theorem notices_ofStage (label : Text) (request : Chat.Request) :
    (ofStage label request).notices = [.step label] := rfl

end Journal

namespace Repair

/-- The message of a failed stage: what the stage was, and then each cause. -/
theorem message_stageFailure (label : Text) (failure : Failure) :
    (stageFailure label failure).message =
      "model request failed (".toList ++ label ++ ")".toList ++
        failure.flatMap fun cause ↦ ": ".toList ++ cause := by
  have hjoin (separator text : Text) (texts : List Text) :
      Text.join separator (text :: texts) = text ++ texts.flatMap fun next ↦ separator ++ next := by
    induction texts generalizing text with
    | nil => simp
    | cons next texts ih => simp [ih next]
  exact hjoin _ _ _

namespace Orchestrator

variable {σ : Type} (orchestrator : Orchestrator) (model : Model σ) (side : Bindings)

/-! ## One stage -/

/-- What an orchestrator did before shows in its state only, and no run reads that. -/
theorem runFrom_enter (before : State) (index : Nat) (code : Text) (state : σ)
    (stages : List Stage) :
    (orchestrator.enter before).runFrom model side index code state stages =
      orchestrator.runFrom model side index code state stages := by
  cases stages <;> rfl

theorem runFrom_cons_of_error {index : Nat} {code : Text} {state next : σ} {stage : Stage}
    {failure : Failure}
    (h : model.complete state (orchestrator.request side code stage) = (.error failure, next))
    (rest : List Stage) :
    orchestrator.runFrom model side index code state (stage :: rest) =
      (⟨.failed index (stageFailure stage.label failure).message,
        .ofStage stage.label (orchestrator.request side code stage), next⟩,
        orchestrator.enter .failed) := by
  have hrequest : (orchestrator.enter (.running index)).request side code stage =
      orchestrator.request side code stage := rfl
  simp only [runFrom, runStage, hrequest, h]
  rfl

theorem runFrom_cons_of_ok {index : Nat} {code response : Text} {state next : σ} {stage : Stage}
    (h : model.complete state (orchestrator.request side code stage) = (.ok response, next))
    (rest : List Stage) :
    orchestrator.runFrom model side index code state (stage :: rest) =
      let later := orchestrator.runFrom model side (index + 1) (Answer.extract response) next rest
      ({ later.1 with
          journal := .ofStage stage.label (orchestrator.request side code stage) ++
            later.1.journal },
        later.2) := by
  have hrequest : (orchestrator.enter (.running index)).request side code stage =
      orchestrator.request side code stage := rfl
  simp only [runFrom, runStage, hrequest, h, runFrom_enter]
  rfl

/-! ## Whole runs -/

/-- How a run over stages, of which the first has a given index, threads its texts. -/
structure Threads (index : Nat) (code : Text) (state : σ) (stages : List Stage) (run : Run σ)
    (after : Orchestrator) : Prop where
  model_eq : run.model = model.after state run.journal.requests
  journal_eq : run.journal =
    (stages.zip run.journal.requests).flatMap fun asked ↦ Journal.ofStage asked.1.label asked.2
  requested_iff : ∀ i, i < run.journal.requests.length ↔ i < stages.length ∧
    ∀ j < i, ∃ response, (model.answers state run.journal.requests)[j]? = some (.ok response)
  request_eq : ∀ i request, run.journal.requests[i]? = some request →
    ∃ stage text, stages[i]? = some stage ∧ request = orchestrator.request side text stage ∧
      match i with
      | 0 => text = code
      | j + 1 => ∃ response : Text,
        (model.answers state run.journal.requests)[j]? = some (Except.ok response) ∧
          text = Answer.extract response
  succeeded :
    (∀ answer ∈ model.answers state run.journal.requests, ∃ response, answer = .ok response) →
    ∃ text, run.outcome = .succeeded text ∧ after = orchestrator.enter .succeeded ∧
      (stages = [] → text = code) ∧
      ∀ response, (model.answers state run.journal.requests).getLast? = some (.ok response) →
        text = Answer.extract response
  failed : ∀ k failure, (model.answers state run.journal.requests)[k]? = some (.error failure) →
    ∃ stage, stages[k]? = some stage ∧ run.journal.requests.length = k + 1 ∧
      run.outcome = .failed (index + k) (stageFailure stage.label failure).message ∧
      after = orchestrator.enter .failed

theorem threads_nil (index : Nat) (code : Text) (state : σ) :
    Threads orchestrator model side index code state [] ⟨.succeeded code, [], state⟩
      (orchestrator.enter .succeeded) where
  model_eq := rfl
  journal_eq := rfl
  requested_iff i := by simp [Journal.requests]
  request_eq i request h := by simp [Journal.requests] at h
  succeeded _ := ⟨code, rfl, rfl, fun _ ↦ rfl, fun response h ↦ by
    simp [Journal.requests, Model.answers] at h⟩
  failed k failure h := by simp [Journal.requests, Model.answers] at h

theorem threads_cons_of_error {index : Nat} {code : Text} {state next : σ} {stage : Stage}
    {failure : Failure}
    (h : model.complete state (orchestrator.request side code stage) = (.error failure, next))
    (rest : List Stage) :
    Threads orchestrator model side index code state (stage :: rest)
      ⟨.failed index (stageFailure stage.label failure).message,
        .ofStage stage.label (orchestrator.request side code stage), next⟩
      (orchestrator.enter .failed) where
  model_eq := by simp [Model.after, h]
  journal_eq := by simp
  requested_iff i := by
    cases i with
    | zero => simp
    | succ i =>
      simp only [Journal.requests_ofStage, Model.answers, h, List.length_singleton]
      constructor
      · intro hi
        omega
      · rintro ⟨-, hok⟩
        obtain ⟨response, hresponse⟩ := hok 0 (Nat.succ_pos i)
        simp at hresponse
  request_eq i request hi := by
    cases i with
    | zero =>
      obtain rfl : orchestrator.request side code stage = request := by simpa using hi
      exact ⟨stage, code, rfl, rfl, rfl⟩
    | succ i => simp at hi
  succeeded hall := by
    obtain ⟨response, hresponse⟩ := hall (.error failure) (by simp [Model.answers, h])
    cases hresponse
  failed k other hk := by
    cases k with
    | zero =>
      obtain rfl : failure = other := by simpa [Model.answers, h] using hk
      exact ⟨stage, rfl, rfl, rfl, rfl⟩
    | succ k => simp [Model.answers, h] at hk

theorem threads_cons_of_ok {index : Nat} {code response : Text} {state next : σ} {stage : Stage}
    {rest : List Stage} {later : Run σ} {after : Orchestrator}
    (h : model.complete state (orchestrator.request side code stage) = (.ok response, next))
    (hlater : Threads orchestrator model side (index + 1) (Answer.extract response) next rest later
      after) :
    Threads orchestrator model side index code state (stage :: rest)
      { later with
        journal := .ofStage stage.label (orchestrator.request side code stage) ++ later.journal }
      after := by
  have hrequests : Journal.requests
      (.ofStage stage.label (orchestrator.request side code stage) ++ later.journal) =
      orchestrator.request side code stage :: later.journal.requests := by simp
  have hanswers : model.answers state
      (orchestrator.request side code stage :: later.journal.requests) =
      .ok response :: model.answers next later.journal.requests := by simp [Model.answers, h]
  constructor <;> simp only [hrequests, hanswers]
  case model_eq => simpa [Model.after, h] using hlater.model_eq
  case journal_eq =>
    have hrest := hlater.journal_eq
    simpa using hrest
  case requested_iff =>
    intro i
    cases i with
    | zero => simp
    | succ i =>
      rw [List.length_cons, List.length_cons, Nat.add_lt_add_iff_right,
        Nat.add_lt_add_iff_right, hlater.requested_iff i]
      refine and_congr_right fun _ ↦ ⟨fun hok j hj ↦ ?_, fun hok j hj ↦ ?_⟩
      · cases j with
        | zero => exact ⟨response, rfl⟩
        | succ j => exact hok j (Nat.lt_of_succ_lt_succ hj)
      · exact hok (j + 1) (Nat.succ_lt_succ hj)
  case request_eq =>
    intro i request hi
    cases i with
    | zero =>
      obtain rfl : orchestrator.request side code stage = request := by simpa using hi
      exact ⟨stage, code, rfl, rfl, rfl⟩
    | succ i =>
      obtain ⟨later, text, hstage, hrequest, htext⟩ := hlater.request_eq i request hi
      refine ⟨later, text, hstage, hrequest, ?_⟩
      cases i with
      | zero => exact ⟨response, rfl, htext⟩
      | succ i => exact htext
  case succeeded =>
    intro hall
    obtain ⟨text, houtcome, hafter, hnil, hlast⟩ :=
      hlater.succeeded fun answer hanswer ↦ hall answer (List.mem_cons_of_mem _ hanswer)
    refine ⟨text, houtcome, hafter, fun hcons ↦ absurd hcons (List.cons_ne_nil _ _),
      fun last hresponse ↦ ?_⟩
    cases hrest : model.answers next later.journal.requests with
    | nil =>
      have hnone : ¬0 < later.journal.requests.length := by
        rw [← model.length_answers next, hrest]
        exact Nat.lt_irrefl 0
      have hempty : rest = [] := by
        rw [hlater.requested_iff 0] at hnone
        simpa using hnone
      obtain rfl : response = last := by simpa [hrest] using hresponse
      exact hnil hempty
    | cons answer answers =>
      rw [hrest, List.getLast?_cons_cons, ← hrest] at hresponse
      exact hlast last hresponse
  case failed =>
    intro k failure hk
    cases k with
    | zero => simp at hk
    | succ k =>
      obtain ⟨failing, hstage, hlength, houtcome, hafter⟩ := hlater.failed k failure hk
      refine ⟨failing, hstage, by simp [hlength], ?_, hafter⟩
      rw [houtcome, Nat.add_right_comm, Nat.add_assoc]

theorem runFrom_threads (index : Nat) (code : Text) (state : σ) (stages : List Stage) :
    Threads orchestrator model side index code state stages
      (orchestrator.runFrom model side index code state stages).1
      (orchestrator.runFrom model side index code state stages).2 := by
  induction stages generalizing index code state with
  | nil => exact orchestrator.threads_nil model side index code state
  | cons stage rest ih =>
    rcases h : model.complete state (orchestrator.request side code stage) with ⟨answer, next⟩
    cases answer with
    | error failure =>
      rw [orchestrator.runFrom_cons_of_error model side h rest]
      exact orchestrator.threads_cons_of_error model side h rest
    | ok response =>
      rw [orchestrator.runFrom_cons_of_ok model side h rest]
      exact orchestrator.threads_cons_of_ok model side h
        (ih (index + 1) (Answer.extract response) next)

namespace Threads

variable {orchestrator model side} {index : Nat} {code : Text} {state : σ} {stages : List Stage}
  {run : Run σ} {after : Orchestrator}

theorem length_le (h : Threads orchestrator model side index code state stages run after) :
    run.journal.requests.length ≤ stages.length := by
  refine Nat.le_of_not_lt fun hlt ↦ ?_
  exact Nat.lt_irrefl _ ((h.requested_iff stages.length).1 hlt).1

/-- A run in which no answer fails gets to the end of its stages. -/
theorem length_eq (h : Threads orchestrator model side index code state stages run after)
    (hall : ∀ answer ∈ model.answers state run.journal.requests,
      ∃ response, answer = Except.ok response) :
    run.journal.requests.length = stages.length := by
  refine Nat.le_antisymm h.length_le (Nat.le_of_not_lt fun hlt ↦ ?_)
  suffices hnext : run.journal.requests.length < run.journal.requests.length from
    Nat.lt_irrefl _ hnext
  refine (h.requested_iff run.journal.requests.length).2 ⟨hlt, fun j hj ↦ ?_⟩
  have hj' : j < (model.answers state run.journal.requests).length := by simpa using hj
  obtain ⟨response, hresponse⟩ := hall _ (List.getElem_mem hj')
  exact ⟨response, by rw [List.getElem?_eq_getElem hj', hresponse]⟩

/-- The stages that are reported are those the model was asked for. -/
theorem notices_eq (h : Threads orchestrator model side index code state stages run after) :
    run.journal.notices =
      (stages.take run.journal.requests.length).map fun stage ↦ .step stage.label := by
  have hzip (requests : List Chat.Request) (stages : List Stage) :
      Journal.notices
        ((stages.zip requests).flatMap fun asked ↦ Journal.ofStage asked.1.label asked.2) =
        (stages.take requests.length).map fun stage ↦ .step stage.label := by
    induction requests generalizing stages with
    | nil => simp [Journal.notices]
    | cons request requests ih =>
      cases stages with
      | nil => simp [Journal.notices]
      | cons stage stages => simp [ih stages]
  conv => lhs; rw [h.journal_eq]
  exact hzip _ _

end Threads

/-- A run asks the model for one stage after the other for as long as the answers succeed.  Each
stage works on the answer that the model gave for the stage before it, and is reported before the
model is asked.  The run ends with the last answer, or with the first failure and no text. -/
theorem run_threads_answers (code : Text) (state : σ) (stages : List Stage) :
    let run := (orchestrator.run model side code state stages).1
    let after := (orchestrator.run model side code state stages).2
    let requests := run.journal.requests
    let answers := model.answers state requests
    run.model = model.after state requests ∧
    (∀ i, i < requests.length ↔
      i < stages.length ∧ ∀ j < i, ∃ response, answers[j]? = some (.ok response)) ∧
    (∀ i request, requests[i]? = some request → ∃ (stage : Stage) (text : Text),
      stages[i]? = some stage ∧ request = Chat.Request.ofPrompt orchestrator.settings.model
        orchestrator.settings.temperature (Template.render stage.template
          { code := some text
            linterOutput :=
              if stage.requires .linterOutput then some (side.value .linterOutput) else none }) ∧
      match i with
      | 0 => text = code
      | j + 1 => ∃ response : Text,
        answers[j]? = some (Except.ok response) ∧ text = Answer.extract response) ∧
    run.journal = (stages.zip requests).flatMap
      (fun asked ↦ [.notice (.step asked.1.label), .request asked.2]) ∧
    run.journal.notices = (stages.take requests.length).map (fun stage ↦ .step stage.label) ∧
    ((∀ answer ∈ answers, ∃ response, answer = .ok response) →
      requests.length = stages.length ∧ after.state = .succeeded ∧
      ∃ text, run.outcome = .succeeded text ∧ (stages = [] → text = code) ∧
        ∀ response, answers.getLast? = some (.ok response) → text = Answer.extract response) ∧
    ∀ k failure, answers[k]? = some (.error failure) →
      requests.length = k + 1 ∧ run.journal.notices.length = k + 1 ∧ after.state = .failed ∧
      run.outcome.finalText? = none ∧
      ∃ stage, stages[k]? = some stage ∧
        run.outcome = .failed k ("model request failed (".toList ++ stage.label ++ ")".toList ++
          failure.flatMap fun cause ↦ ": ".toList ++ cause) := by
  intro run after requests answers
  have h : Threads orchestrator model side 0 code state stages run after :=
    orchestrator.runFrom_threads model side 0 code state stages
  refine ⟨h.model_eq, h.requested_iff, h.request_eq, h.journal_eq, h.notices_eq, ?_, ?_⟩
  · intro hall
    obtain ⟨text, houtcome, hafter, hnil, hlast⟩ := h.succeeded hall
    exact ⟨h.length_eq hall, by rw [hafter]; rfl, text, houtcome, hnil, hlast⟩
  · intro k failure hk
    obtain ⟨stage, hstage, hlength, houtcome, hafter⟩ := h.failed k failure hk
    rw [Nat.zero_add, message_stageFailure] at houtcome
    refine ⟨hlength, ?_, by rw [hafter]; rfl, by rw [houtcome]; rfl, stage, hstage, houtcome⟩
    rw [h.notices_eq, List.length_map, List.length_take]
    exact (Nat.min_eq_left h.length_le).trans hlength

end Orchestrator

end Repair

end CodeRepair
