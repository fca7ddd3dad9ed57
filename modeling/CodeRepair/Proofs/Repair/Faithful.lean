import CodeRepair.Proofs.Repair.Extraction
import CodeRepair.Proofs.Repair.Threading

/-!
# Runs of a model that gives texts back

A model that gives back, at each stage, the text that the stage works on changes nothing but the
white space around a text without markers.  A text with a marker is always cut.  Whatever the model
does, no stage after the first one works on a text with a marker, and none comes out of a run.
-/

namespace CodeRepair.Repair.Orchestrator

open Answer

variable {σ : Type} (orchestrator : Orchestrator) (model : Model σ) (side : Bindings)

/-- The texts that the stages of a run work on, up to the first stage for which the model fails. -/
def texts (code : Text) (state : σ) : List Stage → List Text
  | [] => []
  | stage :: rest =>
    code ::
      match model.complete state (orchestrator.request side code stage) with
      | (.error _, _) => []
      | (.ok response, next) => texts (extract response) next rest

theorem texts_cons_of_error {code : Text} {state next : σ} {stage : Stage} {failure : Failure}
    (h : model.complete state (orchestrator.request side code stage) = (.error failure, next))
    (rest : List Stage) : orchestrator.texts model side code state (stage :: rest) = [code] := by
  rw [texts, h]

theorem texts_cons_of_ok {code response : Text} {state next : σ} {stage : Stage}
    (h : model.complete state (orchestrator.request side code stage) = (.ok response, next))
    (rest : List Stage) :
    orchestrator.texts model side code state (stage :: rest) =
      code :: orchestrator.texts model side (extract response) next rest := by
  rw [texts, h]

/-- The model is asked for each stage with the text that the stage works on. -/
theorem requests_eq_zipWith (index : Nat) (code : Text) (state : σ) (stages : List Stage) :
    (orchestrator.runFrom model side index code state stages).1.journal.requests =
      List.zipWith (orchestrator.request side) (orchestrator.texts model side code state stages)
        stages := by
  induction stages generalizing index code state with
  | nil => rfl
  | cons stage rest ih =>
    rcases h : model.complete state (orchestrator.request side code stage) with ⟨answer, next⟩
    cases answer with
    | error failure =>
      rw [runFrom_cons_of_error _ _ _ h, texts_cons_of_error _ _ _ h]
      rfl
    | ok response =>
      rw [runFrom_cons_of_ok _ _ _ h, texts_cons_of_ok _ _ _ h, List.zipWith_cons_cons, ← ih]
      exact Journal.requests_append _ _

/-! ## Clean texts -/

theorem isClean_of_mem_tail (code : Text) (state : σ) (stages : List Stage) :
    ∀ text ∈ (orchestrator.texts model side code state stages).tail, IsClean text := by
  induction stages generalizing code state with
  | nil => exact fun text htext ↦ absurd htext List.not_mem_nil
  | cons stage rest ih =>
    intro text htext
    rcases h : model.complete state (orchestrator.request side code stage) with ⟨answer, next⟩
    cases answer with
    | error failure =>
      rw [texts_cons_of_error _ _ _ h] at htext
      exact absurd htext List.not_mem_nil
    | ok response =>
      rw [texts_cons_of_ok _ _ _ h, List.tail_cons] at htext
      cases rest with
      | nil => exact absurd htext List.not_mem_nil
      | cons second rest =>
        rcases List.mem_cons.1 htext with rfl | htail
        · exact isClean_extract response
        · exact ih (extract response) next text htail

theorem isClean_of_succeeded {code text : Text} {stages : List Stage} (hstages : stages ≠ [])
    (index : Nat) (state : σ)
    (houtcome : (orchestrator.runFrom model side index code state stages).1.outcome =
      .succeeded text) :
    IsClean text := by
  induction stages generalizing index code state with
  | nil => exact absurd rfl hstages
  | cons stage rest ih =>
    rcases h : model.complete state (orchestrator.request side code stage) with ⟨answer, next⟩
    cases answer with
    | error failure =>
      rw [runFrom_cons_of_error _ _ _ h] at houtcome
      cases houtcome
    | ok response =>
      rw [runFrom_cons_of_ok _ _ _ h] at houtcome
      cases rest with
      | nil =>
        obtain rfl : extract response = text := Outcome.succeeded.inj houtcome
        exact isClean_extract response
      | cons second rest => exact ih (List.cons_ne_nil second rest) (index + 1) next houtcome

/-! ## Texts that are given back -/

/-- In a run from a state, the model answers each stage with the text that the stage works on. -/
def GivesBack (code : Text) (state : σ) (stages : List Stage) : Prop :=
  let run := (orchestrator.run model side code state stages).1
  ∀ (i : Nat) (text : Text), (orchestrator.texts model side code state stages)[i]? = some text →
    ∃ response : Text,
      (model.answers state run.journal.requests)[i]? = some (Except.ok response) ∧
        Repeats response text

theorem answers_cons_of_ok {code response : Text} {state next : σ} {stage : Stage}
    (h : model.complete state (orchestrator.request side code stage) = (.ok response, next))
    (rest : List Stage) :
    model.answers state
        (orchestrator.run model side code state (stage :: rest)).1.journal.requests =
      .ok response :: model.answers next
        (orchestrator.run model side (extract response) next rest).1.journal.requests := by
  rw [run, requests_eq_zipWith, run, requests_eq_zipWith, texts_cons_of_ok _ _ _ h,
    List.zipWith_cons_cons, Model.answers, h]

theorem givesBack_nil (code : Text) (state : σ) : orchestrator.GivesBack model side code state [] :=
  fun _ _ htext ↦ by cases htext

/-- A model gives texts back if it does so at the first stage and goes on like that. -/
theorem givesBack_cons_iff {code : Text} {state : σ} {stage : Stage} {rest : List Stage} :
    orchestrator.GivesBack model side code state (stage :: rest) ↔
      ∃ response next,
        model.complete state (orchestrator.request side code stage) = (.ok response, next) ∧
          Repeats response code ∧
          orchestrator.GivesBack model side (extract response) next rest := by
  constructor
  · intro hgives
    rcases h : model.complete state (orchestrator.request side code stage) with ⟨answer, next⟩
    cases answer with
    | error failure =>
      obtain ⟨response, hresponse, -⟩ := hgives 0 code rfl
      rw [run, requests_eq_zipWith, texts_cons_of_error _ _ _ h] at hresponse
      simp [Model.answers, h] at hresponse
    | ok response =>
      refine ⟨response, next, rfl, ?_, fun i text htext ↦ ?_⟩
      · obtain ⟨first, hfirst, hrepeats⟩ := hgives 0 code rfl
        rw [answers_cons_of_ok _ _ _ h] at hfirst
        obtain rfl : response = first := by simpa using hfirst
        exact hrepeats
      · obtain ⟨later, hlater, hrepeats⟩ := hgives (i + 1) text
          (by rw [texts_cons_of_ok _ _ _ h]; exact htext)
        rw [answers_cons_of_ok _ _ _ h] at hlater
        exact ⟨later, hlater, hrepeats⟩
  · rintro ⟨response, next, h, hrepeats, hrest⟩ i text htext
    rw [answers_cons_of_ok _ _ _ h]
    rw [texts_cons_of_ok _ _ _ h] at htext
    cases i with
    | zero =>
      obtain rfl : code = text := Option.some.inj htext
      exact ⟨response, rfl, hrepeats⟩
    | succ i => exact hrest i text htext

/-- With a model that gives texts back, a run comes to what is taken from its first text. -/
theorem outcome_of_givesBack {code : Text} {state : σ} {stages : List Stage}
    (hgives : orchestrator.GivesBack model side code state stages) (index : Nat) :
    (orchestrator.runFrom model side index code state stages).1.outcome =
      .succeeded (if stages = [] then code else extract code) := by
  induction stages generalizing index code state with
  | nil => rfl
  | cons stage rest ih =>
    obtain ⟨response, next, h, hrepeats, hrest⟩ :=
      (orchestrator.givesBack_cons_iff model side).1 hgives
    rw [runFrom_cons_of_ok _ _ _ h]
    refine (ih hrest (index + 1)).trans ?_
    have hclean : extract (extract response) = extract response := (isClean_extract response).extract_eq
    rw [hclean, ite_self, hrepeats.extract_eq, if_neg (List.cons_ne_nil stage rest)]

/-- With a model that gives texts back, the trimmed text comes out of a run exactly when it holds no
marker.  With any model, only clean texts go from stage to stage and come out of a run. -/
theorem succeeded_trim_iff {stages : List Stage} (hstages : stages ≠ []) (code : Text) (state : σ) :
    let run := (orchestrator.run model side code state stages).1
    let texts := orchestrator.texts model side code state stages
    run.journal.requests = List.zipWith (orchestrator.request side) texts stages ∧
    (orchestrator.GivesBack model side code state stages →
      (run.outcome = .succeeded (Text.trim code) ↔ ¬marker <:+: code)) ∧
    (∀ text ∈ texts.tail, IsClean text) ∧
    ∀ text, run.outcome = .succeeded text → IsClean text := by
  refine ⟨orchestrator.requests_eq_zipWith model side 0 code state stages, fun hgives ↦ ?_,
    orchestrator.isClean_of_mem_tail model side code state stages,
    fun text ↦ orchestrator.isClean_of_succeeded model side hstages 0 state⟩
  rw [run, orchestrator.outcome_of_givesBack model side hgives 0, if_neg hstages,
    Outcome.succeeded.injEq, extract_eq_trim_iff]

/-- A program with a placeholder, quotes and half a marker goes through two stages of a model that
repeats its prompt, and comes out trimmed. -/
theorem succeeded_trim_of_placeholder :
    let note : Text := "No Output: yet.\n".toList
    let model : Model Unit := ⟨fun _ request ↦
      (.ok (note ++ marker ++ (['\n'] ++ request.prompt ++ ['\n'])), ())⟩
    let stage : Stage := ⟨"Copying".toList, "\x7bcode\x7d".toList, [.code]⟩
    let code : Text := " print('\x7bcode\x7d', \"Output\")\n".toList
    let orchestrator : Orchestrator := { settings := ⟨"model".toList, ⟨0⟩⟩ }
    [stage, stage] ≠ [] ∧ orchestrator.GivesBack model {} code () [stage, stage] ∧
      (orchestrator.run model {} code () [stage, stage]).1.outcome =
        .succeeded (Text.trim code) := by
  intro note model stage code orchestrator
  have hcut : Template.cut stage.template = ⟨[], [(.code, [])]⟩ := by decide
  have hprompt (text : Text) : (orchestrator.request {} text stage).prompt = text := by
    have hrender : stage.prompt text {} = text := by
      simp [Stage.prompt, Template.render, hcut, Template.Pieces.fill, Bindings.value, Bindings.get]
    exact hrender
  have hrepeats (text : Text) : Repeats (note ++ marker ++ (['\n'] ++ text ++ ['\n'])) text :=
    ⟨note, ['\n'], ['\n'], by decide, by decide, rfl⟩
  have hstep (text : Text) (rest : List Stage)
      (hrest : ∀ next : Text, orchestrator.GivesBack model {} next () rest) :
      orchestrator.GivesBack model {} text () (stage :: rest) :=
    (orchestrator.givesBack_cons_iff model {}).2
      ⟨_, (), rfl, (hprompt text).symm ▸ hrepeats text, hrest _⟩
  have hgives : orchestrator.GivesBack model {} code () [stage, stage] :=
    hstep code [stage] fun next ↦ hstep next [] fun last ↦ orchestrator.givesBack_nil model {} last ()
  have hstages : [stage, stage] ≠ [] := by decide
  exact ⟨hstages, hgives, ((orchestrator.succeeded_trim_iff model {} hstages code ()).2.1 hgives).2
    (by decide)⟩

end CodeRepair.Repair.Orchestrator
