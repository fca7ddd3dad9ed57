import CodeRepair.Proofs.Repair.Threading
import Mathlib.Data.List.Basic

/-!
# What a run takes from its side bindings

The prompt of a stage is made of the program text and of the side values of the slots that the stage
lists.  A side value that no stage lists has no influence on a run, and neither has a side value for
the program text.  Between two runs that differ in a listed side value, nothing but the answers of the
model carries the difference from one stage to the next.
-/

namespace CodeRepair

namespace Stage

/-! ## One prompt -/

/-- Bindings with the side value of one more slot.  The program text does not come from there. -/
def bindSlot (side bindings : Bindings) (slot : Slot) : Bindings :=
  if slot = .code then bindings else bindings.set slot (side.value slot)

/-- Two side bindings have the same values where a stage asks for them. -/
def Agrees (stage : Stage) (side other : Bindings) : Prop :=
  ∀ slot ∈ stage.slots, slot ≠ .code → side.value slot = other.value slot

theorem foldl_bindSlot (side : Bindings) (slots : List Slot) (bindings : Bindings) :
    slots.foldl (bindSlot side) bindings =
      { bindings with
        linterOutput := if slots.contains .linterOutput then some (side.value .linterOutput)
          else bindings.linterOutput } := by
  induction slots generalizing bindings with
  | nil => rfl
  | cons slot slots ih =>
    rw [List.foldl_cons, ih]
    cases slot with
    | code => rfl
    | linterOutput =>
      -- A slot that is listed again is bound again, to the same value.
      split <;> simp [bindSlot, Bindings.set]

/-- The slots of a stage can be bound one after the other, in whatever order and however often they
are listed. -/
theorem prompt_eq_render_foldl (stage : Stage) (code : Text) (side : Bindings) :
    stage.prompt code side =
      Template.render stage.template (stage.slots.foldl (bindSlot side) { code := some code }) := by
  rw [foldl_bindSlot]
  rfl

theorem Agrees.prompt_eq {stage : Stage} {side other : Bindings} (h : stage.Agrees side other)
    (code : Text) : stage.prompt code side = stage.prompt code other := by
  have hbind (bindings : Bindings) (slot : Slot) (hslot : slot ∈ stage.slots) :
      bindSlot side bindings slot = bindSlot other bindings slot := by
    by_cases hcode : slot = .code
    · rw [bindSlot, if_pos hcode, bindSlot, if_pos hcode]
    · rw [bindSlot, if_neg hcode, bindSlot, if_neg hcode, h slot hslot hcode]
  rw [prompt_eq_render_foldl, prompt_eq_render_foldl, List.foldl_ext _ _ _ hbind]

theorem agrees_of_value_eq {side other : Bindings}
    (h : side.value .linterOutput = other.value .linterOutput) (stage : Stage) :
    stage.Agrees side other := by
  intro slot _ hslot
  cases slot with
  | code => exact absurd rfl hslot
  | linterOutput => exact h

theorem agrees_of_requires_eq_false {stage : Stage} (h : stage.requires .linterOutput = false)
    (side other : Bindings) : stage.Agrees side other := by
  intro slot hmem hslot
  cases slot with
  | code => exact absurd rfl hslot
  | linterOutput =>
    rw [requires, List.contains_iff_mem.2 hmem] at h
    cases h

/-- Of the stages of every repair, all but the first leave the linter output alone. -/
theorem requires_of_getElem?_standard {i : Nat} {stage : Stage} (hi : 0 < i)
    (h : standard[i]? = some stage) : stage.requires .linterOutput = false := by
  have hslots : [[Slot.code, .linterOutput], [.code], [.code]][i]? = some stage.slots := by
    have hall : standard.map Stage.slots = [[.code, .linterOutput], [.code], [.code]] := rfl
    rw [← hall, List.getElem?_map, h]
    rfl
  obtain ⟨j, rfl⟩ := Nat.exists_eq_add_one_of_ne_zero (Nat.ne_of_gt hi)
  have hcode : stage.slots ∈ [[Slot.code], [.code]] := List.mem_of_getElem? hslots
  rw [requires, show stage.slots = [.code] by simpa using hcode]
  rfl

end Stage

namespace Repair.Orchestrator

variable {σ : Type} {orchestrator : Orchestrator} {model : Model σ} {side other : Bindings}

/-! ## Two runs -/

theorem request_eq_of_agrees {stage : Stage} (h : stage.Agrees side other) (code : Text) :
    orchestrator.request side code stage = orchestrator.request other code stage := by
  rw [request, request, h.prompt_eq]

/-- Where the side bindings agree for every stage, the runs do not differ in anything. -/
theorem runFrom_congr {stages : List Stage} (h : ∀ stage ∈ stages, stage.Agrees side other)
    (index : Nat) (code : Text) (state : σ) :
    orchestrator.runFrom model side index code state stages =
      orchestrator.runFrom model other index code state stages := by
  induction stages generalizing index code state with
  | nil => rfl
  | cons stage rest ih =>
    have hrequest : orchestrator.request side code stage = orchestrator.request other code stage :=
      request_eq_of_agrees (h stage List.mem_cons_self) code
    have hrest := ih fun later hlater ↦ h later (List.mem_cons_of_mem stage hlater)
    rcases hother : model.complete state (orchestrator.request other code stage) with ⟨answer, next⟩
    have hside := hother
    rw [← hrequest] at hside
    cases answer with
    | error failure =>
      rw [runFrom_cons_of_error _ _ _ hside, runFrom_cons_of_error _ _ _ hother, hrequest]
    | ok response =>
      rw [runFrom_cons_of_ok _ _ _ hside, runFrom_cons_of_ok _ _ _ hother, hrequest, hrest]

/-- A request of one run is made by another one too, if the model has answered the same until then and
the stage gets the same side values. -/
theorem Threads.getElem?_requests {index : Nat} {code : Text} {state : σ} {stages : List Stage}
    {run run' : Run σ} {after after' : Orchestrator}
    (h : Threads orchestrator model side index code state stages run after)
    (h' : Threads orchestrator model other index code state stages run' after')
    {i : Nat} {stage : Stage} (hstage : stages[i]? = some stage) (hagrees : stage.Agrees side other)
    (hanswers : (model.answers state run.journal.requests).take i =
      (model.answers state run'.journal.requests).take i)
    {request : Chat.Request} (hrequest : run.journal.requests[i]? = some request) :
    run'.journal.requests[i]? = some request := by
  have hanswer (j : Nat) (hj : j < i) : (model.answers state run.journal.requests)[j]? =
      (model.answers state run'.journal.requests)[j]? := by
    rw [← List.getElem?_take_of_lt hj, hanswers, List.getElem?_take_of_lt hj]
  obtain ⟨hi, hok⟩ := (h.requested_iff i).1 (List.getElem?_eq_some_iff.1 hrequest).1
  have hi' : i < run'.journal.requests.length :=
    (h'.requested_iff i).2 ⟨hi, fun j hj ↦ by rw [← hanswer j hj]; exact hok j hj⟩
  obtain ⟨asked, text, hasked, heq, htext⟩ := h.request_eq i request hrequest
  obtain ⟨asked', text', hasked', heq', htext'⟩ :=
    h'.request_eq i _ (List.getElem?_eq_getElem hi')
  obtain rfl : stage = asked := Option.some.inj (hstage.symm.trans hasked)
  obtain rfl : stage = asked' := Option.some.inj (hstage.symm.trans hasked')
  have hsame : text = text' := by
    cases i with
    | zero => exact htext.trans htext'.symm
    | succ j =>
      obtain ⟨response, hresponse, rfl⟩ := htext
      obtain ⟨response', hresponse', rfl⟩ := htext'
      rw [hanswer j (Nat.lt_succ_self j), hresponse'] at hresponse
      cases hresponse
      rfl
  rw [List.getElem?_eq_getElem hi', heq', heq, hsame, request_eq_of_agrees hagrees]

variable (orchestrator model) in
/-- Side bindings reach only the stages that ask for them.  Runs whose side bindings agree on the
linter output, or over stages that do not ask for it, are the same run.  In any other two runs a stage
that does not ask for it is asked for in the same way, as long as the model has answered the same until
then.  A missing linter output is an empty one, and in a repair of its own only the first prompt can
show it. -/
theorem side_reaches_asking_stages (side other : Bindings) (code : Text) (state : σ)
    (stages : List Stage) :
    let run := orchestrator.run model side code state stages
    let run' := orchestrator.run model other code state stages
    let requests := run.1.journal.requests
    let requests' := run'.1.journal.requests
    let answers := model.answers state requests
    let answers' := model.answers state requests'
    (side.get .linterOutput = other.get .linterOutput ∨
      (∀ stage ∈ stages, stage.requires .linterOutput = false) → run = run') ∧
    (∀ i stage, stages[i]? = some stage → stage.requires .linterOutput = false →
      answers.take i = answers'.take i → requests[i]? = requests'[i]?) ∧
    orchestrator.run model { side with linterOutput := none } code state stages =
      orchestrator.run model { side with linterOutput := some [] } code state stages ∧
    (stages = Stage.standard → ∀ i, 0 < i → answers.take i = answers'.take i →
      requests[i]? = requests'[i]?) := by
  intro run run' requests requests' answers answers'
  have hthreads : Threads orchestrator model side 0 code state stages run.1 run.2 :=
    orchestrator.runFrom_threads model side 0 code state stages
  have hthreads' : Threads orchestrator model other 0 code state stages run'.1 run'.2 :=
    orchestrator.runFrom_threads model other 0 code state stages
  have hunasked (i : Nat) (stage : Stage) (hstage : stages[i]? = some stage)
      (hrequires : stage.requires .linterOutput = false)
      (hanswers : answers.take i = answers'.take i) : requests[i]? = requests'[i]? := by
    refine Option.ext fun request ↦ ⟨fun hrequest ↦ ?_, fun hrequest ↦ ?_⟩
    · exact hthreads.getElem?_requests hthreads' hstage
        (Stage.agrees_of_requires_eq_false hrequires side other) hanswers hrequest
    · exact hthreads'.getElem?_requests hthreads hstage
        (Stage.agrees_of_requires_eq_false hrequires other side) hanswers.symm hrequest
  refine ⟨fun hagree ↦ runFrom_congr (fun stage hstage ↦ ?_) 0 code state, hunasked, ?_, ?_⟩
  · rcases hagree with hget | hnone
    · exact Stage.agrees_of_value_eq (congrArg (Option.getD · []) hget) stage
    · exact Stage.agrees_of_requires_eq_false (hnone stage hstage) side other
  · have hempty : ({ side with linterOutput := none } : Bindings).value .linterOutput =
        ({ side with linterOutput := some [] } : Bindings).value .linterOutput := rfl
    exact runFrom_congr (fun stage _ ↦ Stage.agrees_of_value_eq hempty stage) 0 code state
  · rintro rfl i hi hanswers
    cases hstage : Stage.standard[i]? with
    | some stage =>
      exact hunasked i stage hstage (Stage.requires_of_getElem?_standard hi hstage) hanswers
    | none =>
      have hend : Stage.standard.length ≤ i := List.getElem?_eq_none_iff.1 hstage
      rw [List.getElem?_eq_none (Nat.le_trans hthreads.length_le hend),
        List.getElem?_eq_none (Nat.le_trans hthreads'.length_le hend)]

/-- The first stage asks for the linter output twice, and the second one names it without asking for
it: the first prompts differ, and the second ones do not. -/
theorem side_reaches_asking_stages_named :
    let orchestrator : Orchestrator := { settings := ⟨"model".toList, ⟨0⟩⟩ }
    let model : Model Nat := ⟨fun count _ ↦ (.ok "Output: y = 2".toList, count + 1)⟩
    let template : Text := "[\x7blinterOutput\x7d] \x7bcode\x7d".toList
    let asking : Stage := ⟨"Asking".toList, template, [.linterOutput, .code, .linterOutput]⟩
    let naming : Stage := ⟨"Naming".toList, template, [.code]⟩
    let side : Bindings := { linterOutput := some "W0104".toList }
    let other : Bindings := { code := some "z = 3".toList }
    let requests := fun side ↦
      (orchestrator.run model side "x = 1".toList 0 [asking, naming]).1.journal.requests
    (requests side).map Chat.Request.prompt = ["[W0104] x = 1".toList, "[] y = 2".toList] ∧
      (requests other).map Chat.Request.prompt = ["[] x = 1".toList, "[] y = 2".toList] ∧
      (requests side)[1]? = (requests other)[1]? := by
  intro orchestrator model template asking naming side other requests
  obtain ⟨-, hunasked, -, -⟩ :=
    side_reaches_asking_stages orchestrator model side other "x = 1".toList 0 [asking, naming]
  exact ⟨by decide +kernel, by decide +kernel,
    hunasked 1 naming rfl (by decide) (by decide +kernel)⟩

end Repair.Orchestrator

end CodeRepair
