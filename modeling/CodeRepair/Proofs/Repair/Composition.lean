import CodeRepair.Proofs.Repair.Threading

/-!
# Runs one after the other

A run over two lists of stages put together is a run over the first list and then, if a text came
out of it, a run over the second list from that text.  The index of a failing stage counts from the
beginning of the first list.  Nothing but the model remembers an earlier run.
-/

namespace CodeRepair.Repair

/-- The outcome as seen from so many stages further ahead. -/
def Outcome.shift (count : Nat) : Outcome → Outcome
  | succeeded text => succeeded text
  | failed stageIndex message => failed (count + stageIndex) message

/-- The run with its outcome seen from so many stages further ahead. -/
def Run.shift {σ : Type} (count : Nat) (run : Run σ) : Run σ :=
  { run with outcome := run.outcome.shift count }

/-- What an orchestrator is told to run. -/
structure Job where
  side : Bindings
  code : Text
  stages : List Stage

namespace Orchestrator

variable {σ : Type} (orchestrator : Orchestrator) (model : Model σ)

/-- A run over stages and then, from the text that came out of it, a run of the same orchestrator
over further stages. -/
def runThen (side : Bindings) (code : Text) (state : σ) (first second : List Stage) :
    Run σ × Orchestrator :=
  let (run, between) := orchestrator.run model side code state first
  match run.outcome with
  | .failed _ _ => (run, between)
  | .succeeded text =>
    let (next, after) := between.run model side text run.model second
    ({ outcome := next.outcome.shift first.length
       journal := run.journal ++ next.journal
       model := next.model },
      after)

/-- Runs in turn: the model and the orchestrator after them. -/
def runAll {σ : Type} (model : Model σ) : Orchestrator → σ → List Job → σ × Orchestrator
  | orchestrator, state, [] => (state, orchestrator)
  | orchestrator, state, job :: rest =>
    let (run, after) := orchestrator.run model job.side job.code state job.stages
    runAll model after run.model rest

variable (side : Bindings)

/-- The index of the first stage only counts in the index of a failing one. -/
theorem runFrom_add (count index : Nat) (code : Text) (state : σ) (stages : List Stage) :
    orchestrator.runFrom model side (count + index) code state stages =
      ((orchestrator.runFrom model side index code state stages).1.shift count,
        (orchestrator.runFrom model side index code state stages).2) := by
  induction stages generalizing index code state with
  | nil => rfl
  | cons stage rest ih =>
    rcases h : model.complete state (orchestrator.request side code stage) with ⟨answer, next⟩
    cases answer with
    | error failure =>
      rw [runFrom_cons_of_error _ _ _ h, runFrom_cons_of_error _ _ _ h]
      rfl
    | ok response =>
      rw [runFrom_cons_of_ok _ _ _ h, runFrom_cons_of_ok _ _ _ h, Nat.add_assoc, ih]
      rfl

/-- A run changes nothing of its orchestrator but the state. -/
theorem runFrom_snd (index : Nat) (code : Text) (state : σ) (stages : List Stage) :
    ∃ last, (orchestrator.runFrom model side index code state stages).2 =
      orchestrator.enter last := by
  induction stages generalizing index code state with
  | nil => exact ⟨_, rfl⟩
  | cons stage rest ih =>
    rcases h : model.complete state (orchestrator.request side code stage) with ⟨answer, next⟩
    cases answer with
    | error failure =>
      rw [runFrom_cons_of_error _ _ _ h]
      exact ⟨_, rfl⟩
    | ok response =>
      rw [runFrom_cons_of_ok _ _ _ h]
      exact ih (index + 1) (Answer.extract response) next

theorem runFrom_append (index : Nat) (code : Text) (state : σ) (first second : List Stage) :
    orchestrator.runFrom model side index code state (first ++ second) =
      let start := orchestrator.runFrom model side index code state first
      match start.1.outcome with
      | .failed _ _ => start
      | .succeeded text =>
        let next := orchestrator.runFrom model side (index + first.length) text start.1.model second
        ({ next.1 with journal := start.1.journal ++ next.1.journal }, next.2) := by
  induction first generalizing index code state with
  | nil => rfl
  | cons stage rest ih =>
    rw [List.cons_append]
    rcases h : model.complete state (orchestrator.request side code stage) with ⟨answer, next⟩
    cases answer with
    | error failure => rw [runFrom_cons_of_error _ _ _ h, runFrom_cons_of_error _ _ _ h]
    | ok response =>
      have hindex : index + 1 + rest.length = index + (stage :: rest).length := by
        rw [List.length_cons]
        omega
      rw [runFrom_cons_of_ok _ _ _ h, runFrom_cons_of_ok _ _ _ h, ih, ← hindex]
      cases houtcome : (orchestrator.runFrom model side (index + 1) (Answer.extract response) next
        rest).1.outcome with
      | failed stageIndex message => simp [houtcome]
      | succeeded text => simp [houtcome]

/-- No run depends on how an earlier one left the orchestrator. -/
theorem run_enter (before : State) (code : Text) (state : σ) (stages : List Stage) :
    (orchestrator.enter before).run model side code state stages =
      orchestrator.run model side code state stages :=
  orchestrator.runFrom_enter model side before 0 code state stages

theorem run_eq_runThen (code : Text) (state : σ) (first second : List Stage) :
    orchestrator.run model side code state (first ++ second) =
      orchestrator.runThen model side code state first second := by
  obtain ⟨last, hlast⟩ := orchestrator.runFrom_snd model side 0 code state first
  rw [run, runFrom_append]
  simp only [runThen, run, hlast, runFrom_enter]
  cases (orchestrator.runFrom model side 0 code state first).1.outcome with
  | failed stageIndex message => exact Prod.ext rfl hlast
  | succeeded text =>
    simp only [Nat.zero_add]
    rw [show first.length = first.length + 0 from rfl, runFrom_add]
    rfl

/-- Earlier runs leave an orchestrator with the settings it had. -/
theorem runAll_snd (state : σ) (jobs : List Job) :
    ∃ last, (runAll model orchestrator state jobs).2 = orchestrator.enter last := by
  induction jobs generalizing orchestrator state with
  | nil => exact ⟨orchestrator.state, rfl⟩
  | cons job rest ih =>
    obtain ⟨between, hbetween⟩ :=
      orchestrator.runFrom_snd model job.side 0 job.code state job.stages
    let run := (orchestrator.run model job.side job.code state job.stages).1
    have hrest : runAll model orchestrator state (job :: rest) =
        runAll model (orchestrator.enter between) run.model rest := by
      rw [← hbetween]
      rfl
    obtain ⟨last, hlast⟩ := ih (orchestrator.enter between) run.model
    exact ⟨last, by rw [hrest, hlast]; rfl⟩

/-- A run over two lists of stages is a run over the first and then, from its text, one over the
second; and what an orchestrator has run before shows in the model only. -/
theorem run_append (code : Text) (state : σ) (first second : List Stage) :
    orchestrator.run model side code state (first ++ second) =
        orchestrator.runThen model side code state first second ∧
      ∀ (before : σ) (jobs : List Job),
        (runAll model orchestrator before jobs).2.run model side code
            (runAll model orchestrator before jobs).1 first =
          orchestrator.run model side code (runAll model orchestrator before jobs).1 first := by
  refine ⟨orchestrator.run_eq_runThen model side code state first second, fun before jobs ↦ ?_⟩
  obtain ⟨last, hlast⟩ := orchestrator.runAll_snd model before jobs
  rw [hlast, run_enter]

end Orchestrator

end CodeRepair.Repair
