import CodeRepair.Proofs.Document.Identity
import CodeRepair.Proofs.Watch.Batches
import Mathlib.Data.List.Pairwise
import Mathlib.Tactic.MkIffOfInductiveProp

/-!
# Saved files

The files that a batch saves are a sorted set, which depends on nothing but the Python paths that the events
save, up to spelling.  The set tells paths apart by their components.  The identities of documents are told
apart by the components as seen from the working directory, so the set holds a document twice when the batch
names it with `./` in front and without, or from the root and from the working directory, and only then.
-/

namespace CodeRepair.Watch

open DocumentId (resolved resolved_eq)

variable {events others : List Event} {path other : Path}

/-! ## The sorted set -/

/-- Whether some event of a list creates or changes a file at the path, in whatever spelling. -/
def NamesSaved (events : List Event) (path : Path) : Prop :=
  ∃ event ∈ events, event.change.isSave = true ∧ path.IsAmong event.paths

/-- What the events of a list say, path by path. -/
def notices (events : List Event) : List (Change × Path) :=
  events.flatMap fun event ↦ event.paths.map fun path ↦ (event.change, path)

/-- The saves hold a path that is Python along with all its spellings. -/
theorem isAmong_saves_iff :
    path.IsAmong (saves events) ↔ NamesSaved events path ∧ Language.ofPath path = .python := by
  constructor
  · rintro ⟨kept, hkept, hsame⟩
    obtain ⟨event, hevent, hsave, hpath, hpython⟩ := mem_saves_iff.1 hkept
    exact ⟨⟨event, hevent, hsave, kept, hpath, hsame⟩, Language.ofPath_congr hsame ▸ hpython⟩
  · rintro ⟨⟨event, hevent, hsave, named, hnamed, hsame⟩, hpython⟩
    exact ⟨named, mem_saves_iff.2 ⟨event, hevent, hsave, hnamed, Language.ofPath_congr hsame ▸ hpython⟩,
      hsame⟩

theorem isAmong_savedPaths_iff :
    path.IsAmong (savedPaths events) ↔ NamesSaved events path ∧
      (path.extension? = some "py".toList ∨ path.extension? = some "pyi".toList) := by
  rw [savedPaths, Path.isAmong_sortedSet_iff, isAmong_saves_iff, Language.ofPath_eq_python_iff]

theorem namesSaved_iff_notices :
    NamesSaved events path ↔
      ∃ notice ∈ notices events, notice.1.isSave = true ∧ notice.2.same path = true := by
  constructor
  · rintro ⟨event, hevent, hsave, named, hnamed, hsame⟩
    exact ⟨_, List.mem_flatMap.2 ⟨event, hevent, List.mem_map_of_mem hnamed⟩, hsave, hsame⟩
  · rintro ⟨notice, hnotice, hsave, hsame⟩
    obtain ⟨event, hevent, hmap⟩ := List.mem_flatMap.1 hnotice
    obtain ⟨named, hnamed, rfl⟩ := List.mem_map.1 hmap
    exact ⟨event, hevent, hsave, named, hnamed, hsame⟩

/-- Events that say the same save the same files, whichever event says what, how often and when. -/
theorem map_components_savedPaths_congr (h : ∀ notice, notice ∈ notices others ↔ notice ∈ notices events) :
    (savedPaths others).map Path.components = (savedPaths events).map Path.components := by
  refine (Path.ascending_sortedSet _).map_components_eq (Path.ascending_sortedSet _) fun path ↦ ?_
  change path.IsAmong (savedPaths others) ↔ path.IsAmong (savedPaths events)
  simp only [isAmong_savedPaths_iff, namesSaved_iff_notices, h]

theorem mem_notices_congr (h : ∀ event, event ∈ others ↔ event ∈ events) (notice : Change × Path) :
    notice ∈ notices others ↔ notice ∈ notices events := by
  simp only [notices, List.mem_flatMap, h]

theorem saves_append (events others : List Event) :
    saves (events ++ others) = saves events ++ saves others := by
  rw [saves, List.filter_append, List.flatMap_append]
  rfl

/-- The files that a list of events saves are a sorted set, and lists of events are united as sets. -/
structure AreSortedSaves (events : List Event) : Prop where
  /-- Each path comes before all that stand behind it, in the order of components. -/
  ascending : Path.Ascending (savedPaths events)
  /-- A path is there, in some spelling, when an event saves it and it is Python. -/
  isAmong_iff : ∀ path : Path, path.IsAmong (savedPaths events) ↔ NamesSaved events path ∧
    (path.extension? = some "py".toList ∨ path.extension? = some "pyi".toList)
  /-- It is spelled as an event that saves it spells it. -/
  spelled : ∀ path ∈ savedPaths events, ∃ event ∈ events, event.change.isSave = true ∧ path ∈ event.paths
  /-- The order of the events does not matter, -/
  permuted : ∀ others : List Event, others.Perm events →
    (savedPaths others).map Path.components = (savedPaths events).map Path.components
  /-- nor does how often each of them comes, -/
  repeated : ∀ others : List Event, (∀ event, event ∈ others ↔ event ∈ events) →
    (savedPaths others).map Path.components = (savedPaths events).map Path.components
  /-- nor which paths share an event. -/
  regrouped : ∀ others, (∀ notice, notice ∈ notices others ↔ notice ∈ notices events) →
    (savedPaths others).map Path.components = (savedPaths events).map Path.components
  /-- What two lists save together is the sorted set of what they save alone, -/
  append : ∀ others, savedPaths (events ++ others) =
    Path.sortedSet (savedPaths events ++ savedPaths others)
  /-- which holds the paths of both. -/
  isAmong_append_iff : ∀ (others : List Event) (path : Path),
    path.IsAmong (savedPaths (events ++ others)) ↔
      path.IsAmong (savedPaths events) ∨ path.IsAmong (savedPaths others)

/-- Whatever the events are, the files that they save are a sorted set. -/
theorem savedPaths_sorted_set (events : List Event) : AreSortedSaves events where
  ascending := Path.ascending_sortedSet _
  isAmong_iff path := isAmong_savedPaths_iff
  spelled path hpath := by
    obtain ⟨event, hevent, hsave, hnamed, -⟩ := mem_saves_iff.1 (Path.mem_of_mem_sortedSet hpath)
    exact ⟨event, hevent, hsave, hnamed⟩
  permuted others h := map_components_savedPaths_congr (mem_notices_congr fun _ ↦ h.mem_iff)
  repeated others h := map_components_savedPaths_congr (mem_notices_congr h)
  regrouped others h := map_components_savedPaths_congr h
  append others := by
    rw [savedPaths, saves_append, Path.sortedSet_append]
    rfl
  isAmong_append_iff others path := by
    rw [savedPaths, saves_append, Path.isAmong_sortedSet_iff, Path.isAmong_append_iff,
      savedPaths, savedPaths, Path.isAmong_sortedSet_iff, Path.isAmong_sortedSet_iff]

/-! ## Documents -/

/-- Whether a path stands for the same document as a relative path, and only the working directory tells. -/
@[mk_iff]
inductive Respells (directory path other : Path) : Prop
  /-- It has `./` in front. -/
  | dotted (h : path.components = .current :: other.components)
  /-- It leads there from the root. -/
  | rooted (habsolute : path.isAbsolute = true) (hrelative : other.isAbsolute = false)
      (h : path.components = resolved directory other)

/-- Whether paths stand for documents that differ. -/
def AreApart (directory : Path) (paths : List Path) : Prop :=
  paths.Pairwise fun path other ↦
    (DocumentId.ofPath directory path).same (DocumentId.ofPath directory other) = false

instance (directory : Path) (paths : List Path) : Decidable (AreApart directory paths) :=
  inferInstanceAs (Decidable (List.Pairwise _ _))

/-- Paths that are not the same are seen as the same from a directory when one respells the other. -/
theorem resolved_eq_and_ne_iff {directory : Path} :
    resolved directory path = resolved directory other ∧ path.components ≠ other.components ↔
      Respells directory path other ∨ Respells directory other path := by
  rw [respells_iff, respells_iff, resolved_eq directory path, resolved_eq directory other,
    Path.components_eq path, Path.components_eq other, Path.isAbsolute, Path.isAbsolute]
  -- Whatever the two anchors are, no name is taken for the root or the current directory.
  have hroot := Path.root_not_mem_ofPiece (Path.busy (Text.pieces '/' path))
  have hcurrent := Path.current_not_mem_ofPiece (Path.busy (Text.pieces '/' path))
  have hrootOther := Path.root_not_mem_ofPiece (Path.busy (Text.pieces '/' other))
  have hcurrentOther := Path.current_not_mem_ofPiece (Path.busy (Text.pieces '/' other))
  generalize (Path.busy (Text.pieces '/' path)).map Path.Component.ofPiece = names at *
  generalize (Path.busy (Text.pieces '/' other)).map Path.Component.ofPiece = others at *
  cases path.split.1 <;> cases other.split.1 <;>
    simp only [Path.Anchor.components, List.nil_append, List.cons_append, beq_iff_eq, reduceCtorEq,
      if_true, if_false, List.append_cancel_left_eq] <;>
    grind

/-- The name of a Python file is behind the last slash of its path. -/
theorem busy_ne_nil_of_python (h : Language.ofPath path = .python) :
    Path.busy (Text.pieces '/' path) ≠ [] := by
  intro hnil
  have hname : path.fileName? = none := by
    refine Option.eq_none_iff_forall_not_mem.2 fun name hname ↦ ?_
    rw [Option.mem_def, Path.fileName?_eq_some_iff, hnil] at hname
    cases hname.1
  rw [Language.ofPath, Path.extension?, hname] at h
  cases h

theorem python_of_mem_savedPaths (h : path ∈ savedPaths events) : Language.ofPath path = .python := by
  obtain ⟨-, -, -, -, hpython⟩ := mem_saves_iff.1 (Path.mem_of_mem_sortedSet h)
  exact hpython

theorem same_ofPath_iff {directory : Path} (h : Language.ofPath path = .python)
    (hother : Language.ofPath other = .python) :
    (DocumentId.ofPath directory path).same (DocumentId.ofPath directory other) = true ↔
      resolved directory path = resolved directory other := by
  have hcomponents {path : Path} (h : Language.ofPath path = .python) :
      (DocumentId.ofPath directory path).path.components = resolved directory path := by
    have hbusy := busy_ne_nil_of_python h
    refine DocumentId.components_ofPath ?_ (.inr hbusy)
    rintro rfl
    exact hbusy rfl
  rw [DocumentId.same, Path.same_iff, hcomponents h, hcomponents hother]

/-- A batch refreshes different documents unless it names one of them in two such ways. -/
theorem areApart_savedPaths_iff {directory : Path} :
    AreApart directory (savedPaths events) ↔
      ∀ path ∈ saves events, ∀ other ∈ saves events, ¬ Respells directory path other := by
  constructor
  · intro hapart path hpath other hother hrespells
    obtain ⟨hresolved, hne⟩ := resolved_eq_and_ne_iff.2 (.inl hrespells)
    obtain ⟨kept, hkept, hsame⟩ := Path.isAmong_sortedSet_iff.2 ⟨path, hpath, Path.same_iff.2 rfl⟩
    obtain ⟨keptOther, hkeptOther, hsameOther⟩ :=
      Path.isAmong_sortedSet_iff.2 ⟨other, hother, Path.same_iff.2 rfl⟩
    have hsymm : Std.Symm fun path other : Path ↦
        (DocumentId.ofPath directory path).same (DocumentId.ofPath directory other) = false := by
      refine ⟨fun path other h ↦ ?_⟩
      rw [← h, Bool.eq_iff_iff]
      exact ⟨DocumentId.equivalence_same.symm, DocumentId.equivalence_same.symm⟩
    have hdiffer := List.Pairwise.forall hapart hkept hkeptOther fun heq ↦
      hne (by rw [← Path.same_iff.1 hsame, heq, Path.same_iff.1 hsameOther])
    rw [Bool.eq_false_iff, Ne, same_ofPath_iff (python_of_mem_savedPaths hkept)
      (python_of_mem_savedPaths hkeptOther), DocumentId.resolved_congr hsame,
      DocumentId.resolved_congr hsameOther] at hdiffer
    exact hdiffer hresolved
  · intro hnone
    refine (Path.ascending_sortedSet _).imp_of_mem fun {path other} hpath hother hlt ↦ ?_
    rw [Bool.eq_false_iff, Ne, same_ofPath_iff (python_of_mem_savedPaths hpath)
      (python_of_mem_savedPaths hother)]
    intro hresolved
    have hne : path.components ≠ other.components := fun heq ↦ by
      rw [← Path.same_iff, Path.same_eq_false_of_lt hlt] at heq
      cases heq
    have hsaved := Path.mem_of_mem_sortedSet hpath
    have hsavedOther := Path.mem_of_mem_sortedSet hother
    rcases resolved_eq_and_ne_iff.1 ⟨hresolved, hne⟩ with hrespells | hrespells
    · exact hnone path hsaved other hsavedOther hrespells
    · exact hnone other hsavedOther path hsaved hrespells

theorem mem_batches_iff {inputs : List Input} {batch : List Event} :
    batch ∈ batches inputs ↔
      ∃ i : Nat, inputs[i]? = some .timeout ∧ waiting (inputs.take i) = batch := by
  simp only [batches, List.mem_filterMap, List.mem_range, Option.ite_none_right_eq_some, Option.some.injEq]
  constructor
  · rintro ⟨i, -, hi, rfl⟩
    exact ⟨i, hi, rfl⟩
  · rintro ⟨i, hi, rfl⟩
    exact ⟨i, (List.getElem?_eq_some_iff.1 hi).1, hi, rfl⟩

/-- Every turn refreshes nothing, or it refreshes what a batch saves, and every batch has its turn. -/
theorem forall_mem_turns_iff {P : List Path → Prop} (hnil : P []) {inputs : List Input} :
    (∀ turn ∈ turns inputs, P turn) ↔ ∀ batch ∈ batches inputs, P (savedPaths batch) := by
  constructor
  · intro h batch hbatch
    obtain ⟨i, hi, rfl⟩ := mem_batches_iff.1 hbatch
    exact h _ (List.mem_of_getElem? (getElem?_turns_of_timeout hi))
  · intro h turn hturn
    obtain ⟨i, hi⟩ := List.mem_iff_getElem?.1 hturn
    rcases turns_cases hi with rfl | ⟨htimeout, rfl⟩
    · exact hnil
    · exact h _ (mem_batches_iff.2 ⟨i, htimeout, rfl⟩)

/-- From whatever directory it is seen, the loop refreshes each document of a batch once exactly when the
batch does not name one both with `./` in front and without, or both from the root and from the directory. -/
theorem documents_refreshed_once_iff (directory : Path) :
    (∀ events, AreApart directory (savedPaths events) ↔
      ∀ path ∈ saves events, ∀ other ∈ saves events, ¬ Respells directory path other) ∧
    ∀ inputs, (∀ turn ∈ turns inputs, AreApart directory turn) ↔
      ∀ batch ∈ batches inputs, ∀ path ∈ saves batch, ∀ other ∈ saves batch,
        ¬ Respells directory path other := by
  refine ⟨fun events ↦ areApart_savedPaths_iff, fun inputs ↦ ?_⟩
  rw [forall_mem_turns_iff (P := AreApart directory) List.Pairwise.nil]
  simp only [areApart_savedPaths_iff]

/-- A save that the watchers of `.`, of `a.py` and of `/w` report, each in its way, is refreshed three times. -/
theorem documents_refreshed_twice :
    let events : List Event :=
      [⟨.modified, ["./a.py".toList]⟩, ⟨.modified, ["a.py".toList]⟩, ⟨.modified, ["/w/a.py".toList]⟩]
    savedPaths events = ["/w/a.py".toList, "./a.py".toList, "a.py".toList] ∧
      (∀ path ∈ savedPaths events, (DocumentId.ofPath "/w".toList path).path = "/w/a.py".toList) ∧
      ¬ AreApart "/w".toList (savedPaths events) ∧
      turns (events.map .event ++ [.timeout]) = [[], [], [], savedPaths events] := by
  decide

end CodeRepair.Watch
