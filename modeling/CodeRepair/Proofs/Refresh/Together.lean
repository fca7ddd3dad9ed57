import CodeRepair.Proofs.Finding.Publication
import CodeRepair.Proofs.Refresh.Alone
import CodeRepair.Refresh.Interleaving

/-!
# Refreshes that share a collection

However the steps of several refreshes and the changes of the files are mixed, each refresh does what
it would do alone if it were shown the same.  The collection is written in publications only, and a
publication is the work of one refresh, so no document ever has findings of two refreshes.
-/

namespace CodeRepair

theorem Collection.apply_append (collection : Collection) (first second : Journal) :
    collection.apply (first ++ second) = (collection.apply first).apply second := by
  rw [apply, apply, apply, Journal.publications_append, List.foldl_append]

/-- Publications for other documents leave the entry of a document as it is. -/
theorem Collection.apply_of_other {document : DocumentId} {journal : Journal}
    (hother : ∀ set ∈ journal.publications, set.1.same document = false)
    (collection : Collection) :
    (collection.apply journal).get document = collection.get document ∧
      ∀ id : DocumentId, id.same document = true →
        (id ∈ (collection.apply journal).documents ↔ id ∈ collection.documents) := by
  rw [apply]
  generalize journal.publications = sets at hother ⊢
  induction sets generalizing collection with
  | nil => exact ⟨rfl, fun id _ ↦ Iff.rfl⟩
  | cons set sets ih =>
    obtain ⟨hset, hsets⟩ := List.forall_mem_cons.1 hother
    obtain ⟨hget, hdocuments⟩ := ih (collection.replace set.1 set.2) hsets
    refine ⟨?_, fun id hid ↦ (hdocuments id hid).trans (Session.mem_documents_replace hset hid _)⟩
    rw [List.foldl_cons, hget, get_replace, if_neg (Bool.eq_false_iff.1 hset)]

namespace Refresh

/-! ## What a refresh is shown -/

namespace Move

/-- The files after a move. -/
def after (files : FileSystem) : Move → FileSystem
  | .files files => files
  | .refresh _ _ => files

/-- What a move shows to a refresh, if it is a step of this refresh. -/
def view? (index : Nat) (files : FileSystem) : Move → Option View
  | .files _ => none
  | .refresh other answer => if other = index then some ⟨files, answer⟩ else none

end Move

/-- What moves show to a refresh in its own steps. -/
def views (index : Nat) (files : FileSystem) : List Move → List View
  | [] => []
  | move :: moves => (move.view? index files).toList ++ views index (move.after files) moves

namespace Team

/-! ## What each refresh has done -/

/-- What a refresh has done. -/
def actions (team : Team) (index : Nat) : Journal :=
  team.log.filterMap fun entry ↦ if entry.1 = index then some entry.2 else none

/-- What was published in turn, and by which refresh. -/
def published (team : Team) : List (Nat × DocumentId × List Diagnostic) :=
  team.log.filterMap fun
    | (index, .publication document diagnostics) => some (index, document, diagnostics)
    | _ => none

/-- The last publication for a document, and the refresh whose work it is. -/
def last? (team : Team) (document : DocumentId) : Option (Nat × DocumentId × List Diagnostic) :=
  (team.published.filter fun entry ↦ entry.2.1.same document).getLast?

theorem last?_eq_none_iff {team : Team} {document : DocumentId} :
    team.last? document = none ↔ ∀ entry ∈ team.published, entry.2.1.same document = false := by
  simp only [last?, List.getLast?_eq_none_iff, List.filter_eq_nil_iff, Bool.not_eq_true]

theorem mem_of_last? {team : Team} {document : DocumentId}
    {entry : Nat × DocumentId × List Diagnostic} (h : team.last? document = some entry) :
    entry ∈ team.published ∧ entry.2.1.same document = true :=
  List.mem_filter.1 (List.mem_of_getLast? h)

theorem map_snd_published (team : Team) :
    team.published.map Prod.snd = Journal.publications (team.log.map Prod.snd) := by
  rw [published, Journal.publications, List.map_filterMap, List.filterMap_map]
  refine List.filterMap_congr fun entry _ ↦ ?_
  rcases entry with ⟨index, _ | _ | _ | _ | _⟩ <;> rfl

theorem mem_published_iff {team : Team} {index : Nat} {set : DocumentId × List Diagnostic} :
    (index, set) ∈ team.published ↔ set ∈ (team.actions index).publications := by
  constructor
  · intro h
    obtain ⟨⟨other, action⟩, hentry, haction⟩ := List.mem_filterMap.1 h
    cases action <;> cases haction
    exact List.mem_filterMap.2 ⟨_, List.mem_filterMap.2 ⟨_, hentry, if_pos rfl⟩, rfl⟩
  · intro h
    obtain ⟨action, haction, hset⟩ := List.mem_filterMap.1 h
    obtain ⟨⟨other, done⟩, hentry, hdone⟩ := List.mem_filterMap.1 haction
    obtain ⟨rfl, rfl⟩ : other = index ∧ done = action := by simpa using hdone
    cases done <;> cases hset
    exact List.mem_filterMap.2 ⟨_, hentry, rfl⟩

/-! ## One move -/

theorem step_refresh_of_some {team : Team} {index : Nat} {phase : Phase}
    (h : team.phases[index]? = some phase) (answer : AnalyzerAnswer) :
    team.step (.refresh index answer) =
      { team with
        collection := team.collection.apply (phase.next team.files answer).2
        phases := team.phases.set index (phase.next team.files answer).1
        log := team.log ++ (phase.next team.files answer).2.map fun action ↦ (index, action) } := by
  simp only [step, h]

theorem step_refresh_of_none {team : Team} {index : Nat} (h : team.phases[index]? = none)
    (answer : AnalyzerAnswer) : team.step (.refresh index answer) = team := by
  simp only [step, h]

theorem files_step (team : Team) (move : Move) : (team.step move).files = move.after team.files := by
  cases move with
  | files files => rfl
  | refresh index answer =>
    cases h : team.phases[index]? with
    | none => rw [step_refresh_of_none h]; rfl
    | some phase => rw [step_refresh_of_some h]; rfl

/-- A move takes the refresh whose step it is one step further, and no other. -/
theorem getElem?_phases_step (team : Team) (move : Move) (index : Nat) :
    (team.step move).phases[index]? =
      team.phases[index]?.map fun phase ↦ (phase.run (move.view? index team.files).toList).1 := by
  cases move with
  | files files => exact Option.map_id'.symm
  | refresh other answer =>
    by_cases hindex : other = index
    · subst hindex
      cases h : team.phases[other]? with
      | none => rw [step_refresh_of_none h, h]; rfl
      | some phase =>
        have hlt : other < team.phases.length := (List.getElem?_eq_some_iff.1 h).1
        rw [step_refresh_of_some h, Move.view?, if_pos rfl]
        exact List.getElem?_set_self hlt
    · -- A refresh is shown nothing in the step of another one.
      rw [Move.view?, if_neg hindex]
      refine Eq.trans ?_ Option.map_id'.symm
      cases h : team.phases[other]? with
      | none => rw [step_refresh_of_none h]
      | some phase => rw [step_refresh_of_some h]; exact List.getElem?_set_ne hindex

/-- A move adds to what was done by the refresh whose step it is, and by no other. -/
theorem actions_step (team : Team) (move : Move) (index : Nat) :
    (team.step move).actions index =
      team.actions index ++ team.phases[index]?.elim [] fun phase ↦
        (phase.run (move.view? index team.files).toList).2 := by
  have hidle (phase? : Option Phase) :
      team.actions index = team.actions index ++ phase?.elim [] fun phase ↦ (phase.run []).2 := by
    cases phase? <;> exact (List.append_nil _).symm
  cases move with
  | files files => exact hidle _
  | refresh other answer =>
    by_cases hindex : other = index
    · subst hindex
      cases h : team.phases[other]? with
      | none => rw [step_refresh_of_none h]; exact (List.append_nil _).symm
      | some phase =>
        rw [step_refresh_of_some h, Move.view?, if_pos rfl]
        simp [actions, Phase.run]
    · rw [Move.view?, if_neg hindex]
      refine Eq.trans ?_ (hidle _)
      cases h : team.phases[other]? with
      | none => rw [step_refresh_of_none h]
      | some phase =>
        rw [step_refresh_of_some h]
        simp [actions, hindex]

/-- What a move does to the collection is what it adds to the log. -/
theorem collection_step {team : Team}
    (h : team.collection = ({} : Collection).apply (team.log.map Prod.snd)) (move : Move) :
    (team.step move).collection =
      ({} : Collection).apply ((team.step move).log.map Prod.snd) := by
  cases move with
  | files files => exact h
  | refresh index answer =>
    cases hphase : team.phases[index]? with
    | none => rwa [step_refresh_of_none hphase]
    | some phase =>
      have hjournal : List.map Prod.snd
          ((phase.next team.files answer).2.map fun action ↦ (index, action)) =
          (phase.next team.files answer).2 := by
        rw [List.map_map]
        exact List.map_id' _
      rw [step_refresh_of_some hphase, List.map_append, hjournal, Collection.apply_append, h]

/-! ## Moves in turn -/

theorem run_cons (team : Team) (move : Move) (moves : List Move) :
    team.run (move :: moves) = (team.step move).run moves :=
  rfl

/-- Each refresh comes as far as it would come alone. -/
theorem getElem?_phases_run (team : Team) (moves : List Move) (index : Nat) :
    (team.run moves).phases[index]? =
      team.phases[index]?.map fun phase ↦ (phase.run (views index team.files moves)).1 := by
  induction moves generalizing team with
  | nil => exact Option.map_id'.symm
  | cons move moves ih =>
    rw [run_cons, ih, getElem?_phases_step, files_step, Option.map_map]
    refine congrArg (Option.map · _) (funext fun phase ↦ ?_)
    rw [views, Phase.run_append_views]
    rfl

/-- Each refresh does what it would do alone. -/
theorem actions_run (team : Team) (moves : List Move) (index : Nat) :
    (team.run moves).actions index =
      team.actions index ++ team.phases[index]?.elim [] fun phase ↦
        (phase.run (views index team.files moves)).2 := by
  induction moves generalizing team with
  | nil =>
    cases h : team.phases[index]? <;> exact (List.append_nil _).symm
  | cons move moves ih =>
    rw [run_cons, ih, actions_step, getElem?_phases_step, files_step, List.append_assoc]
    cases team.phases[index]? with
    | none => rfl
    | some phase =>
      rw [views, Option.map_some, Option.elim_some, Option.elim_some, Option.elim_some,
        Phase.run_append_views]

theorem collection_run {team : Team}
    (h : team.collection = ({} : Collection).apply (team.log.map Prod.snd)) (moves : List Move) :
    (team.run moves).collection =
      ({} : Collection).apply ((team.run moves).log.map Prod.snd) := by
  induction moves generalizing team with
  | nil => exact h
  | cons move moves ih => exact ih (collection_step h move)

/-! ## From the beginning -/

section

variable (files : FileSystem) (paths : List Path) (moves : List Move)

theorem collection_eq_ofSets :
    ((start files paths).run moves).collection =
      Collection.ofSets (((start files paths).run moves).published.map Prod.snd) := by
  rw [map_snd_published]
  exact collection_run rfl moves

theorem actions_eq_of_getElem? {index : Nat} {path : Path} (h : paths[index]? = some path) :
    ((start files paths).run moves).actions index =
      ((Phase.waiting path).run (views index files moves)).2 := by
  rw [actions_run, start, List.getElem?_map, h]
  rfl

/-- What was published is the work of one refresh that was shown all it needs. -/
theorem publishes_of_mem_published {index : Nat} {set : DocumentId × List Diagnostic}
    (h : (index, set) ∈ ((start files paths).run moves).published) :
    ∃ path source output, paths[index]? = some path ∧
      Publishes path (views index files moves) source output ∧
      set = (source.id, (Record.parse output).map .ofRecord) := by
  have hset := mem_published_iff.1 h
  cases hpath : paths[index]? with
  | none =>
    rw [actions_run, start, List.getElem?_map, hpath] at hset
    exact absurd hset List.not_mem_nil
  | some path =>
    rw [actions_eq_of_getElem? files paths moves hpath] at hset
    obtain ⟨source, output, hpublishes, hset⟩ := Publishes.of_mem_publications hset
    exact ⟨path, source, output, rfl, hpublishes, hset⟩

theorem mem_published_of_publishes {index : Nat} {path : Path} {source : Document} {output : Text}
    (hpath : paths[index]? = some path)
    (h : Publishes path (views index files moves) source output) :
    (index, source.id, (Record.parse output).map .ofRecord) ∈
      ((start files paths).run moves).published := by
  rw [mem_published_iff, actions_eq_of_getElem? files paths moves hpath, h.publications_run]
  exact List.mem_singleton_self _

theorem get_eq_last? (document : DocumentId) :
    ((start files paths).run moves).collection.get document =
      (((start files paths).run moves).last? document).elim [] fun last ↦ last.2.2 := by
  rw [collection_eq_ofSets]
  exact Collection.get_ofSets_map _ Prod.snd document

/-- A document is listed exactly when something was published for it. -/
theorem exists_listed_iff (document : DocumentId) :
    (∃ listed ∈ ((start files paths).run moves).collection.documents,
        listed.same document = true) ↔
      ∃ entry ∈ ((start files paths).run moves).published, entry.2.1.same document = true := by
  let team := (start files paths).run moves
  have hany : team.collection.ids.any (·.same document) =
      team.published.any fun entry ↦ entry.2.1.same document := by
    rw [collection_eq_ofSets, Collection.any_ids_ofSets, List.any_map]
    rfl
  calc
    (∃ listed ∈ team.collection.documents, listed.same document = true) ↔
        ∃ listed ∈ team.collection.ids, listed.same document = true :=
      exists_congr fun listed ↦ and_congr_left' team.collection.documents_perm.mem_iff
    _ ↔ team.collection.ids.any (·.same document) = true := List.any_eq_true.symm
    _ ↔ ∃ entry ∈ team.published, entry.2.1.same document = true := by
      rw [hany, List.any_eq_true]

/-- A document that something was published for has the findings of the last refresh that did so. -/
theorem entry_of_last? {document id : DocumentId} {index : Nat} {diagnostics : List Diagnostic}
    (hlast : ((start files paths).run moves).last? document = some (index, id, diagnostics)) :
    let team := (start files paths).run moves
    team.collection.get document = diagnostics ∧
      (∃ listed ∈ team.collection.documents, listed.same document = true) ∧
      ∃ path source output, paths[index]? = some path ∧
        Publishes path (views index files moves) source output ∧
        source.id.same document = true ∧ id = source.id ∧
        diagnostics = (Record.parse output).map .ofRecord := by
  intro team
  obtain ⟨hpublished, hsame⟩ := mem_of_last? hlast
  have hget : team.collection.get document = diagnostics := by
    rw [get_eq_last?, hlast]
    rfl
  have hlisted : ∃ listed ∈ team.collection.documents, listed.same document = true :=
    (exists_listed_iff files paths moves document).2 ⟨_, hpublished, hsame⟩
  obtain ⟨path, source, output, hpath, hpublishes, hset⟩ :=
    publishes_of_mem_published files paths moves hpublished
  cases hset
  exact ⟨hget, hlisted, path, source, output, hpath, hpublishes, hsame, rfl, rfl⟩

/-- A document that nothing was published for has no entry, and no refresh of it has come to its
end. -/
theorem entry_of_last?_eq_none {document : DocumentId}
    (hlast : ((start files paths).run moves).last? document = none) :
    let team := (start files paths).run moves
    team.collection.get document = [] ∧
      (∀ listed ∈ team.collection.documents, listed.same document = false) ∧
      ∀ index path source output, paths[index]? = some path →
        Publishes path (views index files moves) source output →
        source.id.same document = false := by
  intro team
  have hnone := last?_eq_none_iff.1 hlast
  refine ⟨?_, fun listed hmem ↦ ?_, fun index path source output hpath hpublishes ↦ ?_⟩
  · rw [get_eq_last?, hlast]
    rfl
  · refine Bool.eq_false_iff.2 fun hsame ↦ ?_
    obtain ⟨entry, hentry, hother⟩ :=
      (exists_listed_iff files paths moves document).1 ⟨listed, hmem, hsame⟩
    rw [hnone entry hentry] at hother
    cases hother
  · exact hnone _ (mem_published_of_publishes files paths moves hpath hpublishes)

/-- A step of a refresh leaves the entries of all documents as they are but for the one that the
refresh has loaded. -/
theorem entry_step_of_other {index : Nat} {document : DocumentId} (answer : AnalyzerAnswer)
    (hother : ∀ path source, paths[index]? = some path →
      Loads path (views index files (moves ++ [.refresh index answer])) source →
      source.id.same document = false) :
    let team := (start files paths).run moves
    let next := (start files paths).run (moves ++ [.refresh index answer])
    next.collection.get document = team.collection.get document ∧
      ∀ id : DocumentId, id.same document = true →
        (id ∈ next.collection.documents ↔ id ∈ team.collection.documents) := by
  intro team next
  have hnext : next = team.step (.refresh index answer) := List.foldl_concat ..
  cases hphase : team.phases[index]? with
  | none =>
    rw [hnext, step_refresh_of_none hphase]
    exact ⟨rfl, fun id _ ↦ Iff.rfl⟩
  | some phase =>
    have hcollection : next.collection = team.collection.apply (phase.next team.files answer).2 := by
      rw [hnext, step_refresh_of_some hphase]
    have hactions : next.actions index = team.actions index ++ (phase.next team.files answer).2 := by
      rw [hnext, actions_step, hphase, Move.view?, if_pos rfl]
      simp [Phase.run]
    rw [hcollection]
    refine Collection.apply_of_other (fun set hset ↦ ?_) _
    -- What the step publishes is in the log of the run with this step, so it is for what was loaded.
    have hpublished : (index, set) ∈ next.published := by
      rw [mem_published_iff, hactions, Journal.publications_append]
      exact List.mem_append_right _ hset
    obtain ⟨path, source, output, hpath, hpublishes, rfl⟩ :=
      publishes_of_mem_published files paths _ hpublished
    exact hother path source hpath hpublishes.loads

end

/-- However refreshes are mixed with one another and with changes of the files, a document has the
findings of one refresh, the last that published for it, and no entry if none did: they are the
findings in the output that the analyzer gave this refresh for the document that it loaded.  A refresh
whose file cannot be read tells so and does nothing else, one that gets no output or whose file is gone
publishes nothing, and all others publish once when they come to their end.  No step of a refresh and
no change of the files touches the entry of a document that the refresh has not loaded. -/
theorem sets_unmixed (files : FileSystem) (paths : List Path) (moves : List Move) :
    let team := (start files paths).run moves
    let shown := fun index ↦ views index files moves
    (∀ (document : DocumentId) index id diagnostics,
      team.last? document = some (index, id, diagnostics) →
      team.collection.get document = diagnostics ∧
        (∃ listed ∈ team.collection.documents, listed.same document = true) ∧
        ∃ path source output, paths[index]? = some path ∧
          Publishes path (shown index) source output ∧ source.id.same document = true ∧
          id = source.id ∧ diagnostics = (Record.parse output).map .ofRecord) ∧
    (∀ document : DocumentId, team.last? document = none →
      team.collection.get document = [] ∧
        (∀ listed ∈ team.collection.documents, listed.same document = false) ∧
        ∀ index path source output, paths[index]? = some path →
          Publishes path (shown index) source output → source.id.same document = false) ∧
    (∀ index path, paths[index]? = some path →
      (∀ failure, LoadFails path (shown index) failure →
        team.actions index = [.notice (.error failure.message)]) ∧
      (AnalysisFails (shown index) → (team.actions index).publications = []) ∧
      (FileGone path (shown index) → (team.actions index).publications = []) ∧
      ∀ source output, Publishes path (shown index) source output →
        (team.actions index).publications =
          [(source.id, (Record.parse output).map .ofRecord)]) ∧
    (∀ changed, ((start files paths).run (moves ++ [.files changed])).collection =
      team.collection) ∧
    ∀ index answer (document : DocumentId),
      (∀ path source, paths[index]? = some path →
        Loads path (views index files (moves ++ [.refresh index answer])) source →
        source.id.same document = false) →
      let next := (start files paths).run (moves ++ [.refresh index answer])
      next.collection.get document = team.collection.get document ∧
        ∀ id : DocumentId, id.same document = true →
          (id ∈ next.collection.documents ↔ id ∈ team.collection.documents) := by
  intro team shown
  refine ⟨fun document index id diagnostics ↦ entry_of_last? files paths moves,
    fun document ↦ entry_of_last?_eq_none files paths moves, fun index path hpath ↦ ?_,
    fun changed ↦ ?_, fun index answer document ↦ entry_step_of_other files paths moves answer⟩
  · rw [actions_eq_of_getElem? files paths moves hpath]
    refine ⟨fun failure h ↦ ?_, AnalysisFails.publications_run, FileGone.publications_run,
      fun source output ↦ Publishes.publications_run⟩
    rw [h.run_eq]
  · rw [run, List.foldl_concat]
    rfl

/-- Two files, one of them with a given content. -/
def twoFiles (content : String) : FileSystem where
  nodes := [(["mod.py".toList], .file (Text.encode content.toList)),
    (["b.py".toList], .file (Text.encode "b".toList))]

/-- Five refreshes of three files, one of which is missing. -/
def fivePaths : List Path :=
  ["mod.py".toList, "./mod.py".toList, "c.py".toList, "b.py".toList, "/b.py".toList]

/-- The first two refreshes overlap, and the one that loaded the older text publishes last.  The third
finds no file, the fourth gets no output, and the file of the fifth is gone when it is looked for. -/
def overlappingMoves : List Move :=
  let failing : AnalyzerAnswer := ⟨["stderr".toList], .error ["gone".toList]⟩
  let giving (output : String) : AnalyzerAnswer := ⟨[], .ok output.toList⟩
  [.refresh 0 failing, .files (twoFiles "new"), .refresh 1 failing,
    .refresh 1 (giving "mod.py:2:0: C0114: of new"),
    .refresh 0 (giving "mod.py:1:0: E0602: of old"), .refresh 1 failing, .refresh 0 failing,
    .refresh 1 failing, .refresh 2 failing, .refresh 3 failing, .refresh 3 failing,
    .refresh 4 failing, .refresh 4 (giving "b.py:1:0: C0114: b"), .files {}, .refresh 4 failing,
    .refresh 0 failing]

/-- The older findings stand in the end, and what the other four refreshes did is as it has to be. -/
theorem sets_unmixed_overlapping :
    let files := twoFiles "old"
    let team := (start files fivePaths).run overlappingMoves
    let shown := fun index ↦ views index files overlappingMoves
    let mod : DocumentId := ⟨"/mod.py".toList⟩
    let failing : AnalyzerAnswer := ⟨[], .error ["gone".toList]⟩
    team.collection.get mod = [.ofRecord ⟨1, 0, "E0602".toList, "of old".toList⟩] ∧
      team.collection.get ⟨"/b.py".toList⟩ = [] ∧
      Publishes "./mod.py".toList (shown 1) ⟨mod, "new".toList⟩
        "mod.py:2:0: C0114: of new".toList ∧
      (team.actions 1).publications =
        [(mod, [.ofRecord ⟨2, 0, "C0114".toList, "of new".toList⟩])] ∧
      (∃ failure, LoadFails "c.py".toList (shown 2) failure ∧
        team.actions 2 = [.notice (.error failure.message)]) ∧
      AnalysisFails (shown 3) ∧ (team.actions 3).publications = [] ∧
      FileGone "/b.py".toList (shown 4) ∧ (team.actions 4).publications = [] ∧
      ((start files fivePaths).run (overlappingMoves ++ [.refresh 4 failing])).collection.get mod =
        team.collection.get mod := by
  intro files team shown mod failing
  obtain ⟨hsome, hnone, hrun, -, hstep⟩ := sets_unmixed files fivePaths overlappingMoves
  have hmod := (hsome mod 0 mod [.ofRecord ⟨1, 0, "E0602".toList, "of old".toList⟩]
    (by decide +kernel)).1
  have hb := (hnone ⟨"/b.py".toList⟩ (by decide +kernel)).1
  have hpublishes : Publishes "./mod.py".toList (shown 1) ⟨mod, "new".toList⟩
      "mod.py:2:0: C0114: of new".toList :=
    ⟨⟨_, rfl, by decide +kernel⟩, ⟨_, rfl, rfl⟩, ⟨_, rfl, by decide +kernel⟩, by decide +kernel⟩
  have hload : LoadFails "c.py".toList (shown 2)
      ["read c.py".toList, "No such file or directory (os error 2)".toList] :=
    ⟨_, rfl, by decide +kernel⟩
  have hanalysis : AnalysisFails (shown 3) := ⟨_, _, rfl, rfl⟩
  have hgone : FileGone "/b.py".toList (shown 4) :=
    ⟨⟨⟨"/b.py".toList⟩, "b".toList⟩, _, ⟨_, rfl, by decide +kernel⟩, rfl, by decide +kernel⟩
  refine ⟨hmod, hb, hpublishes, ?_, ⟨_, hload, ?_⟩, hanalysis, ?_, hgone, ?_, ?_⟩
  · exact ((hrun 1 _ rfl).2.2.2 _ _ hpublishes).trans (by decide +kernel)
  · exact (hrun 2 _ rfl).1 _ hload
  · exact (hrun 3 _ rfl).2.1 hanalysis
  · exact (hrun 4 _ rfl).2.2.1 hgone
  · refine (hstep 4 failing mod fun path source hpath hloads ↦ ?_).1
    obtain rfl : "/b.py".toList = path := Option.some.inj hpath
    have hsource : Loads "/b.py".toList
        (views 4 files (overlappingMoves ++ [.refresh 4 failing])) ⟨⟨"/b.py".toList⟩, "b".toList⟩ :=
      ⟨_, rfl, by decide +kernel⟩
    rw [hloads.unique hsource]
    decide

end Team

end Refresh

end CodeRepair
