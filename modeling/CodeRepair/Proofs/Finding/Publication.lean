import CodeRepair.Proofs.Lint
import Mathlib.Data.List.Induction
import Mathlib.Data.List.Perm.Basic
import Mathlib.Tactic.Common

/-!
# What a collection holds after a session

A session mixes lints, which publish for the document in view when they end, with publications of
their own.  Whatever the order, a document has the findings that were last published for it under any
of its spellings, and it is listed under the spelling that came first.
-/

namespace CodeRepair

namespace DocumentId

theorem same_iff {id other : DocumentId} :
    id.same other = true ↔ id.path.components = other.path.components :=
  beq_iff_eq

theorem same_congr {id other : DocumentId} (h : id.same other = true) (third : DocumentId) :
    id.same third = other.same third := by
  rw [Bool.eq_iff_iff, same_iff, same_iff, same_iff.1 h]

theorem same_comm (id other : DocumentId) : id.same other = other.same id := by
  rw [Bool.eq_iff_iff, same_iff, same_iff, eq_comm]

end DocumentId

namespace Collection

/-- The documents of a collection in the order in which they came in. -/
def ids (collection : Collection) : List DocumentId :=
  collection.sets.map Prod.fst

/-! ## One publication -/

theorem get_cons (set : DocumentId × List Diagnostic) (sets : List (DocumentId × List Diagnostic))
    (document : DocumentId) :
    (Collection.mk (set :: sets)).get document =
      if set.1.same document then set.2 else (Collection.mk sets).get document := by
  rw [get, List.find?_cons]
  cases set.1.same document <;> rfl

theorem get_replace (collection : Collection) (published document : DocumentId)
    (diagnostics : List Diagnostic) :
    (collection.replace published diagnostics).get document =
      if published.same document then diagnostics else collection.get document := by
  obtain ⟨sets⟩ := collection
  induction sets with
  | nil => exact get_cons (published, diagnostics) [] document
  | cons set sets ih =>
    simp only [replace] at ih ⊢
    rw [replaceIn, get_cons]
    -- Only the first set that is kept under a spelling of `published` is replaced.
    by_cases hset : set.1.same published = true
    · rw [if_pos hset, get_cons, DocumentId.same_congr hset]
      split <;> rfl
    · rw [if_neg hset, get_cons, ih]
      by_cases hpublished : published.same document = true
      · have hother : set.1.same document = false := by
          rw [DocumentId.same_comm, ← DocumentId.same_congr hpublished, DocumentId.same_comm]
          exact Bool.eq_false_iff.2 hset
        rw [hother, if_neg Bool.false_ne_true, if_pos hpublished, if_pos hpublished]
      · rw [if_neg hpublished, if_neg hpublished]

theorem map_fst_replaceIn (published : DocumentId) (diagnostics : List Diagnostic)
    (sets : List (DocumentId × List Diagnostic)) :
    (replaceIn published diagnostics sets).map Prod.fst =
      if (sets.map Prod.fst).any (·.same published) then sets.map Prod.fst
      else sets.map Prod.fst ++ [published] := by
  induction sets with
  | nil => rfl
  | cons set sets ih =>
    rw [replaceIn, List.map_cons, List.any_cons]
    by_cases hset : set.1.same published = true
    · rw [if_pos hset, hset, Bool.true_or, if_pos rfl, List.map_cons]
    · rw [if_neg hset, Bool.eq_false_iff.2 hset, Bool.false_or, List.map_cons, ih, List.cons_append]
      split <;> rfl

theorem ids_replace (collection : Collection) (published : DocumentId)
    (diagnostics : List Diagnostic) :
    (collection.replace published diagnostics).ids =
      if collection.ids.any (·.same published) then collection.ids
      else collection.ids ++ [published] :=
  map_fst_replaceIn published diagnostics collection.sets

/-! ## The listed documents -/

theorem insertSet_perm (set : DocumentId × List Diagnostic)
    (sets : List (DocumentId × List Diagnostic)) : (insertSet set sets).Perm (set :: sets) := by
  induction sets with
  | nil => exact List.Perm.refl _
  | cons other rest ih =>
    rw [insertSet]
    split
    · exact List.Perm.refl _
    · exact (ih.cons other).trans (List.Perm.swap set other rest)

theorem documents_perm (collection : Collection) : collection.documents.Perm collection.ids := by
  refine List.Perm.map Prod.fst ?_
  rw [sorted, ← List.reverse_reverse collection.sets, List.foldl_reverse]
  induction collection.sets.reverse with
  | nil => exact List.Perm.refl _
  | cons set sets ih =>
    rw [List.foldr_cons, List.reverse_cons]
    exact ((insertSet_perm set _).trans (ih.cons set)).trans
      (List.perm_append_singleton set sets.reverse).symm

/-! ## Sets put in turn -/

/-- The collection after sets are put in turn, beginning with nothing. -/
def ofSets (sets : List (DocumentId × List Diagnostic)) : Collection :=
  sets.foldl (fun collection set ↦ collection.replace set.1 set.2) {}

theorem ofSets_concat (sets : List (DocumentId × List Diagnostic))
    (last : DocumentId × List Diagnostic) :
    ofSets (sets ++ [last]) = (ofSets sets).replace last.1 last.2 := by
  rw [ofSets, List.foldl_append]
  rfl

/-- The last set that was put for a document is the one it has. -/
theorem get_ofSets_map {α : Type} (entries : List α) (set : α → DocumentId × List Diagnostic)
    (document : DocumentId) :
    (ofSets (entries.map set)).get document =
      (entries.filter fun entry ↦ (set entry).1.same document).getLast?.elim []
        fun last ↦ (set last).2 := by
  induction entries using List.reverseRecOn with
  | nil => rfl
  | append_singleton entries last ih =>
    rw [List.map_append, List.map_singleton, ofSets_concat, get_replace, List.filter_append]
    by_cases hlast : (set last).1.same document = true
    · have hfilter : [last].filter (fun entry ↦ (set entry).1.same document) = [last] :=
        List.filter_eq_self.2 (List.forall_mem_singleton.2 hlast)
      rw [if_pos hlast, hfilter, List.getLast?_concat, Option.elim_some]
    · have hfilter : [last].filter (fun entry ↦ (set entry).1.same document) = [] :=
        List.filter_eq_nil_iff.2 (List.forall_mem_singleton.2 hlast)
      rw [if_neg hlast, hfilter, List.append_nil, ih]

/-- A set was put for a document exactly when it is there under one of its spellings. -/
theorem any_ids_ofSets (sets : List (DocumentId × List Diagnostic)) (document : DocumentId) :
    (ofSets sets).ids.any (·.same document) = sets.any fun set ↦ set.1.same document := by
  induction sets using List.reverseRecOn with
  | nil => rfl
  | append_singleton sets last ih =>
    rw [ofSets_concat, ids_replace, List.any_append, ← ih]
    by_cases hthere : (ofSets sets).ids.any (·.same last.1) = true
    · rw [if_pos hthere]
      by_cases hlast : last.1.same document = true
      · obtain ⟨id, hid, hsame⟩ := List.any_eq_true.1 hthere
        have hany : (ofSets sets).ids.any (·.same document) = true :=
          List.any_eq_true.2 ⟨id, hid, by rw [DocumentId.same_congr hsame, hlast]⟩
        rw [hany, Bool.true_or]
      · simp [hlast]
    · rw [if_neg hthere, List.any_append]
      rfl

/-! ## Publications in turn -/

/-- The collection after publications in turn, beginning with nothing. -/
def ofPublished (published : List (DocumentId × List Record)) : Collection :=
  published.foldl (fun collection set ↦ collection.replace set.1 (set.2.map .ofRecord)) {}

theorem ofPublished_eq_ofSets (published : List (DocumentId × List Record)) :
    ofPublished published = ofSets (published.map fun set ↦ (set.1, set.2.map .ofRecord)) := by
  rw [ofPublished, ofSets, List.foldl_map]

theorem ofPublished_concat (published : List (DocumentId × List Record))
    (last : DocumentId × List Record) :
    ofPublished (published ++ [last]) =
      (ofPublished published).replace last.1 (last.2.map .ofRecord) := by
  rw [ofPublished, List.foldl_append]
  rfl

theorem get_ofPublished (published : List (DocumentId × List Record)) (document : DocumentId) :
    (ofPublished published).get document =
      match (published.filter fun set ↦ set.1.same document).getLast? with
      | some last => last.2.map .ofRecord
      | none => [] := by
  rw [ofPublished_eq_ofSets, get_ofSets_map]
  cases (published.filter fun set ↦ set.1.same document).getLast? <;> rfl

/-- Something was published for a document exactly when it is there under one of its spellings. -/
theorem any_ids_ofPublished (published : List (DocumentId × List Record)) (document : DocumentId) :
    (ofPublished published).ids.any (·.same document) =
      published.any fun set ↦ set.1.same document := by
  rw [ofPublished_eq_ofSets, any_ids_ofSets, List.any_map]
  rfl

/-- A spelling under which a document first comes in a list of publications. -/
def IsFirst (published : List (DocumentId × List Record)) (id : DocumentId) : Prop :=
  ∃ before records after, published = before ++ (id, records) :: after ∧
    ∀ set ∈ before, set.1.same id = false

theorem isFirst_concat {published : List (DocumentId × List Record)}
    {last : DocumentId × List Record} {id : DocumentId} :
    IsFirst (published ++ [last]) id ↔
      IsFirst published id ∨ (id = last.1 ∧ ∀ set ∈ published, set.1.same id = false) := by
  constructor
  · rintro ⟨before, records, after, hsplit, hbefore⟩
    rcases List.eq_nil_or_concat after with rfl | ⟨front, final, rfl⟩
    · obtain ⟨rfl, hlast⟩ := List.append_inj' hsplit rfl
      obtain rfl : last = (id, records) := List.singleton_inj.1 hlast
      exact .inr ⟨rfl, hbefore⟩
    · left
      rw [List.concat_eq_append, ← List.cons_append, ← List.append_assoc] at hsplit
      exact ⟨before, records, front, (List.append_inj' hsplit rfl).1, hbefore⟩
  · rintro (⟨before, records, after, rfl, hbefore⟩ | ⟨rfl, hbefore⟩)
    · exact ⟨before, records, after ++ [last], by simp, hbefore⟩
    · exact ⟨published, last.2, [], rfl, hbefore⟩

theorem mem_ids_ofPublished {published : List (DocumentId × List Record)} {id : DocumentId} :
    id ∈ (ofPublished published).ids ↔ IsFirst published id := by
  induction published using List.reverseRecOn with
  | nil =>
    refine ⟨fun h ↦ absurd h List.not_mem_nil, ?_⟩
    rintro ⟨before, records, after, hsplit, -⟩
    exact absurd hsplit.symm (List.append_ne_nil_of_right_ne_nil _ (List.cons_ne_nil _ _))
  | append_singleton published last ih =>
    have hany := any_ids_ofPublished published last.1
    rw [ofPublished_concat, ids_replace, isFirst_concat, ← ih]
    by_cases hthere : (ofPublished published).ids.any (·.same last.1) = true
    · rw [if_pos hthere]
      refine ⟨.inl, ?_⟩
      rintro (hid | ⟨rfl, hnone⟩)
      · exact hid
      · rw [hthere] at hany
        obtain ⟨set, hset, hsame⟩ := List.any_eq_true.1 hany.symm
        rw [hnone set hset] at hsame
        cases hsame
    · rw [if_neg hthere, List.mem_append, List.mem_singleton]
      refine or_congr_right ⟨fun hid ↦ ⟨hid, fun set hset ↦ ?_⟩, And.left⟩
      rw [Bool.eq_false_iff.2 hthere] at hany
      have hnone := List.any_eq_false.1 hany.symm set hset
      rw [hid]
      exact Bool.eq_false_iff.2 hnone

/-- No document is there under two spellings. -/
theorem pairwise_ids_ofPublished (published : List (DocumentId × List Record)) :
    (ofPublished published).ids.Pairwise fun id other ↦ id.same other = false := by
  induction published using List.reverseRecOn with
  | nil => exact List.Pairwise.nil
  | append_singleton published last ih =>
    rw [ofPublished_concat, ids_replace]
    split
    · exact ih
    · rename_i hthere
      refine List.pairwise_append.2 ⟨ih, List.pairwise_singleton _ _, fun id hid other hother ↦ ?_⟩
      rw [List.mem_singleton.1 hother]
      exact Bool.eq_false_iff.2 (List.any_eq_false.1 (Bool.eq_false_iff.2 hthere) id hid)

end Collection

/-! ## Sessions -/

namespace Session

variable {σ : Type}

/-- One thing that is done with a collection at hand. -/
inductive Step (σ : Type)
  | lint (analyzer : Analyzer σ) (active : σ → Option DocumentId) (document : Document)
  | publish (document : Option DocumentId) (records : List Record)

namespace Step

/-- The collection and the world after a step. -/
def perform (collection : Collection) (world : σ) : Step σ → Collection × σ
  | lint analyzer active document =>
    let (_, journal, world) := Lint.run analyzer active world document
    (collection.apply journal, world)
  | publish document records => (collection.publish document records, world)

/-- The world after a step. -/
def after (world : σ) : Step σ → σ
  | lint analyzer _ document => (analyzer.analyze world document).2
  | publish _ _ => world

/-- What a step publishes, if it publishes anything: an analysis that gave an output publishes its
findings for the document that is in view then. -/
def published? (world : σ) : Step σ → Option (DocumentId × List Record)
  | lint analyzer active document =>
    match (analyzer.analyze world document).1.output with
    | .error _ => none
    | .ok output =>
      (active (analyzer.analyze world document).2).map fun target ↦ (target, Record.parse output)
  | publish document records => document.map fun target ↦ (target, records)

end Step

/-- The collection and the world after steps in turn. -/
def run (collection : Collection) (world : σ) : List (Step σ) → Collection × σ
  | [] => (collection, world)
  | step :: rest =>
    let (collection, world) := step.perform collection world
    run collection world rest

/-- What steps publish in turn. -/
def published (world : σ) : List (Step σ) → List (DocumentId × List Record)
  | [] => []
  | step :: rest => (step.published? world).toList ++ published (step.after world) rest

/-! ## What sessions publish -/

theorem publications_run (analyzer : Analyzer σ) (active : σ → Option DocumentId) (world : σ)
    (document : Document) :
    (Lint.run analyzer active world document).2.1.publications =
      ((Step.lint analyzer active document).published? world).toList.map fun set ↦
        (set.1, set.2.map .ofRecord) := by
  cases houtput : (analyzer.analyze world document).1.output with
  | error failure =>
    rw [(Lint.failed_run analyzer active world document houtput).publications, Step.published?,
      houtput]
    rfl
  | ok output =>
    rw [(Lint.completed_run analyzer active world document houtput).publications, Step.published?,
      houtput]
    cases active (analyzer.analyze world document).2 <;> rfl

/-- A step replaces what it publishes and does nothing else. -/
theorem perform_eq (step : Step σ) (collection : Collection) (world : σ) :
    step.perform collection world =
      (match step.published? world with
        | some set => collection.replace set.1 (set.2.map .ofRecord)
        | none => collection,
        step.after world) := by
  cases step with
  | lint analyzer active document =>
    have hpublications := publications_run analyzer active world document
    refine Prod.ext ?_ (Lint.world_run analyzer active world document)
    simp only [Step.perform, Collection.apply, hpublications]
    cases (Step.lint analyzer active document).published? world <;> rfl
  | publish document records => cases document <;> rfl

theorem run_append_steps (collection : Collection) (world : σ) (steps more : List (Step σ)) :
    run collection world (steps ++ more) =
      run (run collection world steps).1 (run collection world steps).2 more := by
  induction steps generalizing collection world with
  | nil => rfl
  | cons step rest ih => exact ih _ _

theorem run_fst (collection : Collection) (world : σ) (steps : List (Step σ)) :
    (run collection world steps).1 =
      (published world steps).foldl
        (fun collection set ↦ collection.replace set.1 (set.2.map .ofRecord)) collection := by
  induction steps generalizing collection world with
  | nil => rfl
  | cons step rest ih =>
    rw [run, perform_eq, published, List.foldl_append]
    refine (ih _ _).trans ?_
    cases step.published? world <;> rfl

theorem run_eq_ofPublished (world : σ) (steps : List (Step σ)) :
    (run {} world steps).1 = Collection.ofPublished (published world steps) :=
  run_fst {} world steps

theorem run_concat (world : σ) (steps : List (Step σ)) (step : Step σ) :
    (run {} world (steps ++ [step])).1 =
      match step.published? (run {} world steps).2 with
      | some set => (run {} world steps).1.replace set.1 (set.2.map .ofRecord)
      | none => (run {} world steps).1 := by
  rw [run_append_steps, run, perform_eq]
  rfl

/-- What is published for another document leaves the entry of a document as it is. -/
theorem mem_documents_replace {collection : Collection} {published document id : DocumentId}
    (hother : published.same document = false) (hid : id.same document = true)
    (diagnostics : List Diagnostic) :
    id ∈ (collection.replace published diagnostics).documents ↔ id ∈ collection.documents := by
  rw [(collection.replace published diagnostics).documents_perm.mem_iff,
    collection.documents_perm.mem_iff, Collection.ids_replace]
  split
  · exact Iff.rfl
  · rw [List.mem_append, List.mem_singleton, or_iff_left]
    rintro rfl
    rw [hid] at hother
    cases hother

/-- After any session a document has the findings that were last published for it, under any of its
spellings.  The documents that are listed are those that something was published for, each once and as
it was spelled first.  Steps that publish nothing change nothing, and steps that publish for another
document change nothing for this one. -/
theorem get_eq_last_published (steps : List (Step σ)) (world : σ) (document : DocumentId) :
    let collection := (run {} world steps).1
    let published := published world steps
    (collection.get document =
      match (published.filter fun set ↦ set.1.same document).getLast? with
      | some last => last.2.map .ofRecord
      | none => []) ∧
    (∀ id, id ∈ collection.documents ↔ ∃ before records after,
      published = before ++ (id, records) :: after ∧ ∀ set ∈ before, set.1.same id = false) ∧
    collection.documents.Pairwise (fun id other ↦ id.same other = false) ∧
    (∀ spelling : DocumentId, spelling.same document = true →
      collection.get spelling = collection.get document) ∧
    ∀ step : Step σ,
      let next := (run {} world (steps ++ [step])).1
      (step.published? (run {} world steps).2 = none → next = collection) ∧
      ∀ set, step.published? (run {} world steps).2 = some set → set.1.same document = false →
        next.get document = collection.get document ∧
        ∀ id : DocumentId, id.same document = true →
          (id ∈ next.documents ↔ id ∈ collection.documents) := by
  intro collection published
  have hcollection : collection = Collection.ofPublished published := run_eq_ofPublished world steps
  refine ⟨?_, fun id ↦ ?_, ?_, fun spelling hsame ↦ ?_, fun step ↦ ⟨fun hnone ↦ ?_, ?_⟩⟩
  · rw [hcollection]
    exact Collection.get_ofPublished published document
  · rw [collection.documents_perm.mem_iff, hcollection]
    exact Collection.mem_ids_ofPublished
  · have hpairwise := Collection.pairwise_ids_ofPublished published
    rw [← hcollection] at hpairwise
    refine (collection.documents_perm.pairwise_iff fun {id other} h ↦ ?_).2 hpairwise
    rw [DocumentId.same_comm, h]
  · have hsets (set : DocumentId × List Diagnostic) :
        set.1.same spelling = set.1.same document := by
      rw [DocumentId.same_comm, DocumentId.same_congr hsame, DocumentId.same_comm]
    simp only [Collection.get, hsets]
  · rw [run_concat, hnone]
  · intro set hset hother
    rw [run_concat, hset]
    refine ⟨?_, fun id hid ↦ mem_documents_replace hother hid _⟩
    rw [Collection.get_replace, if_neg (Bool.eq_false_iff.1 hother)]

/-- A document is published directly, then under another spelling by a lint of another document that
is not in view any more, and then a lint fails. -/
theorem get_eq_last_published_respelled :
    let analyzer : Analyzer Unit := ⟨fun _ document ↦
      (⟨["stderr".toList], if document.text.isEmpty then .error ["gone".toList]
        else .ok document.text⟩, ())⟩
    let respelled : DocumentId := ⟨"/a/./b.py".toList⟩
    let document : DocumentId := ⟨"/a//b.py".toList⟩
    let other : DocumentId := ⟨"/a/c.py".toList⟩
    let steps : List (Step Unit) :=
      [.publish (some document) [⟨1, 0, "C0114".toList, "first".toList⟩],
        .lint analyzer (fun _ ↦ some respelled) ⟨other, "x:3:4: E0602: last".toList⟩,
        .lint analyzer (fun _ ↦ some document) ⟨document, []⟩]
    let collection := (run {} () steps).1
    let step : Step Unit := .publish (some other) []
    let next := (run {} () (steps ++ [step])).1
    respelled.same document = true ∧ collection.get respelled = collection.get document ∧
      collection.get document = [.ofRecord ⟨3, 4, "E0602".toList, "last".toList⟩] ∧
      step.published? (run {} () steps).2 = some (other, []) ∧ other.same document = false ∧
      next.get document = collection.get document := by
  intro analyzer respelled document other steps collection step next
  obtain ⟨hget, -, -, hspelling, hstep⟩ := get_eq_last_published steps () document
  have hsame : respelled.same document = true := by decide
  have hother : other.same document = false := by decide
  exact ⟨hsame, hspelling respelled hsame, hget.trans (by decide), rfl, hother,
    ((hstep step).2 (other, []) rfl hother).1⟩

end Session

end CodeRepair
