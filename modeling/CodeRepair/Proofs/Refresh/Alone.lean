import CodeRepair.Proofs.Lint
import CodeRepair.Refresh
import Mathlib.Tactic.Common

/-!
# One refresh

A refresh depends on what it is shown when it takes its steps, and on nothing else.  Four views are
enough: one to load the document, one to run the analyzer, one to look for the file, and one to
publish.  Whatever they show, a refresh publishes once or not at all, and it publishes the findings
in the output that the analyzer gave for the document that was loaded.
-/

namespace CodeRepair.Refresh

/-- What a refresh is shown when it takes a step. -/
structure View where
  files : FileSystem
  answer : AnalyzerAnswer

/-! ## What the views show -/

section

variable (path : Path) (views : List View)

/-- The file cannot be read. -/
def LoadFails (failure : Failure) : Prop :=
  ∃ view, views[0]? = some view ∧ Document.load view.files path = .error failure

/-- A document is loaded. -/
def Loads (source : Document) : Prop :=
  ∃ view, views[0]? = some view ∧ Document.load view.files path = .ok source

/-- The analyzer gives no output. -/
def AnalysisFails : Prop :=
  ∃ view failure, views[1]? = some view ∧ view.answer.output = .error failure

/-- The analyzer gives an output. -/
def Gives (output : Text) : Prop :=
  ∃ view, views[1]? = some view ∧ view.answer.output = .ok output

/-- The file of the loaded document is gone when it is looked for. -/
def FileGone : Prop :=
  ∃ source view, Loads path views source ∧ views[2]? = some view ∧
    view.files.contains source.id.path = false

/-- The file of a document is there when it is looked for. -/
def Finds (source : Document) : Prop :=
  ∃ view, views[2]? = some view ∧ view.files.contains source.id.path = true

/-- The findings in an output are published for a document. -/
structure Publishes (source : Document) (output : Text) : Prop where
  loads : Loads path views source
  gives : Gives views output
  finds : Finds views source
  ends : 4 ≤ views.length

end

variable {path : Path} {views : List View} {source : Document} {output : Text}

/-! ## Steps in turn -/

namespace Phase

-- a step has an equation for each phase; they are made here, before the proofs that go by them
attribute [local simp] next

/-- A refresh after steps of its own, and what it did in them. -/
def run (phase : Phase) : List View → Phase × Journal
  | [] => (phase, [])
  | view :: views =>
    let (next, journal) := phase.next view.files view.answer
    let (last, more) := next.run views
    (last, journal ++ more)

theorem run_cons (phase : Phase) (view : View) (views : List View) :
    phase.run (view :: views) =
      (((phase.next view.files view.answer).1.run views).1,
        (phase.next view.files view.answer).2 ++
          ((phase.next view.files view.answer).1.run views).2) :=
  rfl

theorem run_append_views (phase : Phase) (views more : List View) :
    phase.run (views ++ more) =
      (((phase.run views).1.run more).1,
        (phase.run views).2 ++ ((phase.run views).1.run more).2) := by
  induction views generalizing phase with
  | nil => rfl
  | cons view views ih => rw [List.cons_append, run_cons, run_cons, ih, List.append_assoc]

@[simp]
theorem run_ended (views : List View) : ended.run views = (ended, []) := by
  induction views with
  | nil => rfl
  | cons view views ih => rw [run_cons, next, ih, List.append_nil]

/-! ## What is published -/

theorem publications_run_waiting (load : View) (views : List View) :
    ((waiting path).run (load :: views)).2.publications =
      match Document.load load.files path with
      | .ok source => ((loaded source).run views).2.publications
      | .error _ => [] := by
  rw [run_cons, next]
  cases Document.load load.files path with
  | ok source => rfl
  | error failure =>
    dsimp only
    rw [run_ended]
    rfl

theorem publications_run_loaded (analysis : View) (views : List View) :
    ((loaded source).run (analysis :: views)).2.publications =
      match analysis.answer.output with
      | .ok output => ((analyzed source output).run views).2.publications
      | .error _ => [] := by
  rw [run_cons, next, Journal.publications_append]
  cases analysis.answer.output with
  | ok output =>
    dsimp only
    rw [Journal.publications_analysis, List.nil_append]
  | error failure =>
    dsimp only
    rw [run_ended, Journal.publications_append, Journal.publications_analysis]
    rfl

theorem publications_run_analyzed (check : View) (views : List View) :
    ((analyzed source output).run (check :: views)).2.publications =
      if check.files.contains source.id.path = true then
        ((confirmed source output).run views).2.publications
      else [] := by
  rw [run_cons, next, Journal.publications_append]
  split
  · rfl
  · rw [run_ended]
    rfl

theorem publications_run_confirmed (view : View) (views : List View) :
    ((confirmed source output).run (view :: views)).2.publications =
      [(source.id, (Record.parse output).map .ofRecord)] := by
  rw [run_cons, next, run_ended]
  rfl

/-! ### Back from what is published -/

section

variable {set : DocumentId × List Diagnostic}

theorem loads_of_mem_publications (h : set ∈ ((waiting path).run views).2.publications) :
    ∃ load rest source, views = load :: rest ∧ Document.load load.files path = .ok source ∧
      set ∈ ((loaded source).run rest).2.publications := by
  cases views with
  | nil => exact absurd h List.not_mem_nil
  | cons load rest =>
    rw [publications_run_waiting] at h
    split at h
    · rename_i source hsource
      exact ⟨load, rest, source, rfl, hsource, h⟩
    · exact absurd h List.not_mem_nil

theorem gives_of_mem_publications (h : set ∈ ((loaded source).run views).2.publications) :
    ∃ analysis rest output, views = analysis :: rest ∧ analysis.answer.output = .ok output ∧
      set ∈ ((analyzed source output).run rest).2.publications := by
  cases views with
  | nil => exact absurd h List.not_mem_nil
  | cons analysis rest =>
    rw [publications_run_loaded] at h
    split at h
    · rename_i output houtput
      exact ⟨analysis, rest, output, rfl, houtput, h⟩
    · exact absurd h List.not_mem_nil

theorem finds_of_mem_publications (h : set ∈ ((analyzed source output).run views).2.publications) :
    ∃ check rest, views = check :: rest ∧ check.files.contains source.id.path = true ∧
      set ∈ ((confirmed source output).run rest).2.publications := by
  cases views with
  | nil => exact absurd h List.not_mem_nil
  | cons check rest =>
    rw [publications_run_analyzed] at h
    split at h
    · rename_i hfound
      exact ⟨check, rest, rfl, hfound, h⟩
    · exact absurd h List.not_mem_nil

theorem ends_of_mem_publications (h : set ∈ ((confirmed source output).run views).2.publications) :
    ∃ last rest, views = last :: rest ∧
      set = (source.id, (Record.parse output).map .ofRecord) := by
  cases views with
  | nil => exact absurd h List.not_mem_nil
  | cons last rest =>
    rw [publications_run_confirmed] at h
    exact ⟨last, rest, rfl, List.mem_singleton.1 h⟩

end

end Phase

theorem Loads.unique {other : Document} (h : Loads path views source)
    (hother : Loads path views other) : source = other := by
  obtain ⟨view, hview, hsource⟩ := h
  obtain ⟨again, hagain, hother⟩ := hother
  obtain rfl : view = again := Option.some.inj (hview.symm.trans hagain)
  exact Except.ok.inj (hsource.symm.trans hother)

/-- A refresh whose file cannot be read tells so, and that is all it does. -/
theorem LoadFails.run_eq {failure : Failure} (h : LoadFails path views failure) :
    (Phase.waiting path).run views = (.ended, [.notice (.error failure.message)]) := by
  obtain ⟨load, hhead, hload⟩ := h
  cases views with
  | nil => cases hhead
  | cons view rest =>
    obtain rfl : view = load := Option.some.inj hhead
    simp only [Phase.run_cons, Phase.next, hload, Phase.run_ended, List.append_nil]

/-- A refresh that is shown all it needs publishes the findings once. -/
theorem Publishes.publications_run (h : Publishes path views source output) :
    ((Phase.waiting path).run views).2.publications =
      [(source.id, (Record.parse output).map .ofRecord)] := by
  obtain ⟨⟨load, hload, hsource⟩, ⟨analysis, hanalysis, houtput⟩, ⟨check, hcheck, hfound⟩, hends⟩ := h
  match views, hends with
  | _ :: _ :: _ :: last :: rest, _ =>
    cases hload
    cases hanalysis
    cases hcheck
    simp only [Phase.publications_run_waiting, hsource, Phase.publications_run_loaded, houtput,
      Phase.publications_run_analyzed, hfound, if_true, Phase.publications_run_confirmed]

/-- What a refresh publishes are the findings for the document that it loaded, and it was shown all it
needs. -/
theorem Publishes.of_mem_publications {set : DocumentId × List Diagnostic}
    (h : set ∈ ((Phase.waiting path).run views).2.publications) :
    ∃ source output, Publishes path views source output ∧
      set = (source.id, (Record.parse output).map .ofRecord) := by
  obtain ⟨load, _, source, rfl, hsource, h⟩ := Phase.loads_of_mem_publications h
  obtain ⟨analysis, _, output, rfl, houtput, h⟩ := Phase.gives_of_mem_publications h
  obtain ⟨check, _, rfl, hfound, h⟩ := Phase.finds_of_mem_publications h
  obtain ⟨last, rest, rfl, hset⟩ := Phase.ends_of_mem_publications h
  have hends : 4 ≤ (load :: analysis :: check :: last :: rest).length :=
    Nat.le_add_left 4 rest.length
  exact ⟨source, output, ⟨⟨load, rfl, hsource⟩, ⟨analysis, rfl, houtput⟩, ⟨check, rfl, hfound⟩,
    hends⟩, hset⟩

theorem AnalysisFails.publications_run (h : AnalysisFails views) :
    ((Phase.waiting path).run views).2.publications = [] := by
  obtain ⟨view, failure, hview, hfailure⟩ := h
  refine List.eq_nil_iff_forall_not_mem.2 fun set hset ↦ ?_
  obtain ⟨source, output, ⟨-, ⟨analysis, hanalysis, houtput⟩, -, -⟩, -⟩ :=
    Publishes.of_mem_publications hset
  obtain rfl : view = analysis := Option.some.inj (hview.symm.trans hanalysis)
  rw [hfailure] at houtput
  cases houtput

theorem FileGone.publications_run (h : FileGone path views) :
    ((Phase.waiting path).run views).2.publications = [] := by
  obtain ⟨source, view, hloads, hview, hgone⟩ := h
  refine List.eq_nil_iff_forall_not_mem.2 fun set hset ↦ ?_
  obtain ⟨other, output, ⟨hother, -, ⟨check, hcheck, hfound⟩, -⟩, -⟩ :=
    Publishes.of_mem_publications hset
  obtain rfl : source = other := hloads.unique hother
  obtain rfl : view = check := Option.some.inj (hview.symm.trans hcheck)
  rw [hgone] at hfound
  cases hfound

/-! ## A refresh as a whole -/

/-- A refresh that is not interrupted does as a whole what it does step by step: the analyzer is run
on the document that was loaded, and the file is looked for in the world after that. -/
theorem run_eq_steps {σ : Type} (analyzer : Analyzer σ) (files : σ → FileSystem) (world : σ)
    (answer : AnalyzerAnswer) (hload : Document.load (files world) path = .ok source) :
    let (analysis, after) := analyzer.analyze world source
    run analyzer files world path =
      (((Phase.waiting path).run
        [⟨files world, answer⟩, ⟨files world, analysis⟩, ⟨files after, answer⟩,
          ⟨files after, answer⟩]).2, after) := by
  rcases hanalysis : analyzer.analyze world source with ⟨⟨lines, output⟩, after⟩
  simp only [run, hload, Lint.run_eq, Lint.analysisActions, hanalysis, Phase.run_cons, Phase.next,
    List.nil_append]
  cases output with
  | error failure => simp only [Phase.run, List.append_nil]
  | ok output =>
    cases hfound : (files after).contains source.id.path <;>
      simp [Phase.run, hfound]

end CodeRepair.Refresh
