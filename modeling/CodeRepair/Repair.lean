import CodeRepair.Analysis
import CodeRepair.Answer
import CodeRepair.Stage

/-!
# Repairs

A repair sends the program text through a list of stages.  Each stage asks the model for a revision
and keeps the answer from its response; the answer is the text of the next stage.  The first stage
that fails ends the repair, and no text of an earlier stage comes out.
-/

namespace CodeRepair.Repair

/-- Which model a repair asks, and at which temperature. -/
structure Settings where
  model : Text
  temperature : Decimal.Single
  deriving DecidableEq, Repr

/-- How a repair ended. -/
inductive Outcome
  | succeeded (text : Text)
  | failed (stageIndex : Nat) (message : Text)
  deriving DecidableEq, Repr

namespace Outcome

/-- The text that came out, if any. -/
def finalText? : Outcome → Option Text
  | succeeded text => some text
  | failed _ _ => none

/-- Whether a repair succeeded. -/
def isSuccess : Outcome → Bool
  | succeeded _ => true
  | failed _ _ => false

end Outcome

/-- How an orchestrator stands. -/
inductive State
  | idle
  /-- The model is being asked for the stage of this index. -/
  | running (stageIndex : Nat)
  | succeeded
  | failed
  deriving DecidableEq, Repr

/-- What a run over stages came to: its outcome, its journal, and the model after it. -/
structure Run (σ : Type) where
  outcome : Outcome
  journal : Journal
  model : σ

/-- The failure of a stage. -/
def stageFailure (label : Text) (failure : Failure) : Failure :=
  ("model request failed (".toList ++ label ++ ")".toList) :: failure

/-- One that runs stages again and again, with the same settings. -/
structure Orchestrator where
  settings : Settings
  state : State := .idle
  deriving DecidableEq, Repr

namespace Orchestrator

/-- The orchestrator in another state. -/
def enter (orchestrator : Orchestrator) (state : State) : Orchestrator :=
  { orchestrator with state := state }

/-- What the model is asked for a stage. -/
def request (orchestrator : Orchestrator) (side : Bindings) (code : Text) (stage : Stage) :
    Chat.Request :=
  .ofPrompt orchestrator.settings.model orchestrator.settings.temperature (stage.prompt code side)

/-- What a stage makes of a text, and the model after it. -/
def runStage {σ : Type} (orchestrator : Orchestrator) (model : Model σ) (side : Bindings)
    (code : Text) (state : σ) (stage : Stage) : Except Failure Text × σ :=
  match model.complete state (orchestrator.request side code stage) with
  | (.error failure, state) => (.error (stageFailure stage.label failure), state)
  | (.ok response, state) => (.ok (Answer.extract response), state)

/-- A run over stages of which the first has a given index, and the orchestrator after it. -/
def runFrom {σ : Type} (orchestrator : Orchestrator) (model : Model σ) (side : Bindings)
    (index : Nat) (code : Text) (state : σ) : List Stage → Run σ × Orchestrator
  | [] => (⟨.succeeded code, [], state⟩, orchestrator.enter .succeeded)
  | stage :: rest =>
    let orchestrator := orchestrator.enter (.running index)
    let actions : Journal :=
      [.notice (.step stage.label), .request (orchestrator.request side code stage)]
    match orchestrator.runStage model side code state stage with
    | (.error failure, state) =>
      (⟨.failed index failure.message, actions, state⟩, orchestrator.enter .failed)
    | (.ok next, state) =>
      let (run, orchestrator) := runFrom orchestrator model side (index + 1) next state rest
      ({ run with journal := actions ++ run.journal }, orchestrator)

/-- One run of an orchestrator, and the orchestrator after it. -/
def run {σ : Type} (orchestrator : Orchestrator) (model : Model σ) (side : Bindings) (code : Text)
    (state : σ) (stages : List Stage) : Run σ × Orchestrator :=
  orchestrator.runFrom model side 0 code state stages

end Orchestrator

/-- The title of a repair. -/
def title : Text := "Generating fixed code".toList

/-- What a repaired document came to, with the worlds of the analyzer and of the model after it. -/
structure DocumentRun (σ τ : Type) where
  outcome : Outcome
  journal : Journal
  world : σ
  model : τ

/-- The findings of an analysis for the first stage, the actions on the way, and the world after it.
Without an analyzer, and after a failed analysis, there are none. -/
def findings {σ : Type} (analyzer : Option (Analyzer σ)) (world : σ) (document : Document) :
    Bindings × Journal × σ :=
  match analyzer with
  | none => ({}, [], world)
  | some analyzer =>
    let (run, journal, world) := analyzer.run world document
    let journal : Journal := .notice (.step "Running analysis".toList) :: journal
    match run.status with
    | .completed => ({ linterOutput := some run.rawOutput }, journal, world)
    | .failed message =>
      ({}, journal ++
        [.notice (.error ("analysis failed, repairing without findings: ".toList ++ message))],
        world)
    | .running => ({}, journal, world)

/-- The repair of a document: an analysis for its findings, if there is an analyzer, and then the
stages. -/
def document {σ τ : Type} (analyzer : Option (Analyzer σ)) (world : σ) (model : Model τ) (state : τ)
    (document : Document) (stages : List Stage) (settings : Settings) : DocumentRun σ τ :=
  let (side, before, world) := findings analyzer world document
  let (run, _) := Orchestrator.run { settings := settings } model side document.text state stages
  { outcome := run.outcome
    journal := .notice (.begun title false) :: before ++ run.journal ++
      [.notice (.finished run.outcome.isSuccess)]
    world := world
    model := run.model }

end CodeRepair.Repair
