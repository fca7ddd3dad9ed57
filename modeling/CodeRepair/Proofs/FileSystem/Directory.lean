import CodeRepair.Proofs.FileSystem.Growth
import CodeRepair.Proofs.Path.Parent

/-!
# Making directories

Making a directory together with the missing ones above it adds directories and changes nothing
else, whether it succeeds or fails halfway, and it adds none if the path leads somewhere already.
The first directory that is added is the missing end of a path that the given one goes through.
-/

namespace CodeRepair.FileSystem

variable {files later made : FileSystem} {location : Location} {path : Path} {fault : FileFault}

/-- A later file system has more directories and is otherwise the same. -/
structure Widens (files later : FileSystem) : Prop where
  workingDirectory : later.workingDirectory = files.workingDirectory
  lookup : ∀ location, later.lookup location = files.lookup location ∨
    files.lookup location = none ∧ later.lookup location = some .directory

namespace Widens

theorem refl (files : FileSystem) : files.Widens files :=
  ⟨rfl, fun _ ↦ .inl rfl⟩

theorem trans {last : FileSystem} (h : files.Widens later) (next : later.Widens last) :
    files.Widens last := by
  refine ⟨next.workingDirectory.trans h.workingDirectory, fun location ↦ ?_⟩
  rcases h.lookup location with he | ⟨hn, hd⟩
  · rw [← he]
    exact next.lookup location
  · rcases next.lookup location with he' | ⟨hn', -⟩
    · exact .inr ⟨hn, he'.trans hd⟩
    · rw [hd] at hn'
      cases hn'

theorem lookup_some {node : Node} (h : files.Widens later)
    (hl : files.lookup location = some node) : later.lookup location = some node := by
  rcases h.lookup location with he | ⟨hn, -⟩
  · exact he.trans hl
  · rw [hl] at hn
    cases hn

theorem keeps (h : files.Widens later) : files.Keeps later :=
  ⟨h.workingDirectory, fun _ node hl ↦ ⟨node, h.lookup_some hl, .refl node⟩⟩

/-- What a path leads to is not changed by more directories. -/
theorem locate {node : Node} (h : files.Widens later) (hf : files.locate path = .ok (location, node)) :
    later.locate path = .ok (location, node) := by
  obtain ⟨other, hother, halike⟩ := h.keeps.locate hf
  cases halike with
  | refl => exact hother
  | file content other =>
    have hstood := h.lookup_some (lookup_of_locate_file hf)
    rw [lookup_of_locate_file hother] at hstood
    rw [hother, Option.some.inj hstood]

/-- What a path leads to afterwards stood there before, or it is a directory. -/
theorem stood {node : Node} (h : files.Widens later) (hf : later.locate path = .ok (location, node)) :
    node = .directory ∨ files.lookup location = some node := by
  rcases resolve_stands (locate_eq_ok_iff.mp hf) with hd | hl
  · exact .inl hd
  · rcases h.lookup location with he | ⟨-, hd⟩
    · exact .inr (he.symm.trans hl)
    · exact .inl (Option.some.inj (hl.symm.trans hd))

theorem put (h : files.lookup location = none) :
    files.Widens (files.put location .directory) := by
  have hne : location ≠ [] := by
    rintro rfl
    cases h
  refine ⟨rfl, fun other ↦ ?_⟩
  rw [lookup_put files hne]
  split
  · next he =>
    subst he
    exact .inr ⟨h, rfl⟩
  · exact .inl rfl

end Widens

/-! ## One directory -/

theorem makeDirectory_eq_ok_iff :
    files.makeDirectory path = .ok made ↔ ∃ location slash,
      files.resolve .entry path = .ok (.vacant location slash) ∧
        made = files.put location .directory := by
  unfold makeDirectory
  cases files.resolve .entry path with
  | error fault => simp
  | ok place => cases place <;> simp [eq_comm]

theorem makeDirectory_widens (h : files.makeDirectory path = .ok made) : files.Widens made := by
  obtain ⟨location, slash, hr, rfl⟩ := makeDirectory_eq_ok_iff.mp h
  exact .put (resolve_stands hr)

theorem ensureDirectory_of_ok (h : files.makeDirectory path = .ok made) :
    files.ensureDirectory path = (none, made) := by
  unfold ensureDirectory
  rw [h]

theorem ensureDirectory_of_error (h : files.makeDirectory path = .error fault) :
    (files.ensureDirectory path).2 = files := by
  unfold ensureDirectory
  rw [h]

theorem ensureDirectory_widens (files : FileSystem) (path : Path) :
    files.Widens (files.ensureDirectory path).2 := by
  cases h : files.makeDirectory path with
  | ok made =>
    rw [ensureDirectory_of_ok h]
    exact makeDirectory_widens h
  | error fault =>
    rw [ensureDirectory_of_error h]
    exact .refl files

/-- Where a path leads somewhere, no directory can be made. -/
theorem makeDirectory_of_contains (h : files.contains path = true) :
    files.makeDirectory path = .error .alreadyExists := by
  obtain ⟨location, hc⟩ := contains_eq_true_iff.mp h
  obtain ⟨node, hn⟩ := canonical_eq_ok_iff.mp hc
  unfold makeDirectory
  rcases files.resolve_entry path with he | ⟨other, node', he⟩
  · rw [he, locate_eq_ok_iff.mp hn]
  · rw [he]

/-! ## The missing ones above -/

theorem makeDirectoriesUpTo_widens (files : FileSystem) (bound : Nat) (path : Path) :
    files.Widens (files.makeDirectoriesUpTo bound path).2 := by
  fun_induction FileSystem.makeDirectoriesUpTo files bound path with
  | case1 | case2 | case3 => exact .refl files
  | case4 bound path _ _ parent _ made hm ih =>
    rw [hm] at ih
    exact ih.trans (made.ensureDirectory_widens path)
  | case5 _ _ _ _ _ _ _ ih => exact ih
  | case6 => exact files.ensureDirectory_widens _

theorem makeDirectoriesUpTo_nil (files : FileSystem) (bound : Nat) :
    (files.makeDirectoriesUpTo bound []).2 = files := by
  cases bound <;> rfl

/-- A path that leads somewhere needs no directory. -/
theorem makeDirectoriesUpTo_of_contains (h : files.contains path = true) (bound : Nat) :
    (files.makeDirectoriesUpTo bound path).2 = files := by
  have hm := makeDirectory_of_contains h
  cases bound with
  | zero => rfl
  | succ bound =>
    unfold makeDirectoriesUpTo ensureDirectory
    simp only [hm]
    split <;> rfl

/-- A directory is made at once, or after the missing ones above it. -/
theorem makeDirectoriesUpTo_succ {bound : Nat}
    (h : files.makeDirectoriesUpTo (bound + 1) path = (none, made)) (hne : made ≠ files) :
    files.makeDirectory path = .ok made ∨
      ∃ parent middle, path.parent? = some parent ∧
        files.makeDirectory path = .error .notFound ∧
          files.makeDirectoriesUpTo bound parent = (none, middle) ∧
            middle.ensureDirectory path = (none, made) := by
  unfold makeDirectoriesUpTo at h
  split at h
  · cases h
    exact absurd rfl hne
  split at h
  · next hm =>
    cases hp : path.parent? with
    | none => simp [hp] at h
    | some parent =>
      simp only [hp] at h
      split at h
      · next middle hmiddle => exact .inr ⟨parent, middle, rfl, hm, hmiddle, h⟩
      · next hfailed => exact absurd h (hfailed made)
  · cases hm : files.makeDirectory path with
    | ok next =>
      rw [ensureDirectory_of_ok hm] at h
      cases h
      exact .inl rfl
    | error fault =>
      have hsame := ensureDirectory_of_error hm
      rw [h] at hsame
      exact absurd hsame hne

theorem makeDirectoriesUpTo_first {bound : Nat}
    (h : files.makeDirectoriesUpTo bound path = (none, made)) (hne : made ≠ files) :
    ∃ first location slash, Path.Through first path ∧
      files.resolve .entry first = .ok (.vacant location slash) ∧
        (files.put location .directory).Widens made := by
  induction bound generalizing path made with
  | zero => cases h
  | succ bound ih =>
    rcases makeDirectoriesUpTo_succ h hne with hm | ⟨parent, middle, hp, hm, hmiddle, hlast⟩
    · obtain ⟨location, slash, hr, rfl⟩ := makeDirectory_eq_ok_iff.mp hm
      exact ⟨path, location, slash, .refl path, hr, .refl _⟩
    · have hchanged : middle ≠ files := by
        rintro rfl
        have hsame := ensureDirectory_of_error hm
        rw [hlast] at hsame
        exact hne hsame
      have hparent : parent ≠ [] := by
        rintro rfl
        have hsame := files.makeDirectoriesUpTo_nil bound
        rw [hmiddle] at hsame
        exact hchanged hsame
      obtain ⟨first, location, slash, hthrough, hr, hw⟩ := ih hmiddle hchanged
      have hwidens := middle.ensureDirectory_widens path
      rw [hlast] at hwidens
      exact ⟨first, location, slash, hthrough.trans (Path.through_parent hp hparent), hr,
        hw.trans hwidens⟩

theorem makeDirectories_widens (files : FileSystem) (path : Path) :
    files.Widens (files.makeDirectories path).2 :=
  files.makeDirectoriesUpTo_widens _ path

theorem makeDirectories_of_contains (h : files.contains path = true) :
    (files.makeDirectories path).2 = files :=
  makeDirectoriesUpTo_of_contains h _

/-- If a directory was made, the first one was missing at the end of a path that the given one goes
through. -/
theorem makeDirectories_first (h : files.makeDirectories path = (none, made))
    (hne : made ≠ files) :
    ∃ first location slash, Path.Through first path ∧
      files.resolve .entry first = .ok (.vacant location slash) ∧
        (files.put location .directory).Widens made :=
  makeDirectoriesUpTo_first h hne

end CodeRepair.FileSystem
