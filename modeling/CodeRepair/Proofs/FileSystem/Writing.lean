import CodeRepair.Proofs.FileSystem.Growth

/-!
# Where written bytes stand

Writing to a path either goes to a device or puts a file at one location, and afterwards the path
leads to that file.  So a reader of the path gets what was written, and every other location holds
what it held.
-/

namespace CodeRepair.FileSystem

variable {files later : FileSystem} {here location : Location} {name : Text} {names rest : List Text}
  {path : Path} {content : List UInt8}

/-! ## Creation and content

A path that can be followed for a file that may be made leads to the same place for its content. -/

theorem stride_content_of_creation {next : Stride}
    (h : files.stride .creation here name rest = next) (hne : ∀ fault, next ≠ .stop (.fault fault)) :
    files.stride .content here name rest = next := by
  unfold stride enter at h ⊢
  grind

theorem advance_content_of_creation {passage : Passage}
    (h : files.advance .creation here names = passage) (hne : ∀ fault, passage ≠ .fault fault) :
    files.advance .content here names = passage := by
  induction names generalizing here with
  | nil => exact h
  | cons name names ih =>
    cases hs : files.stride .creation here name names with
    | on next =>
      rw [advance_cons_of_on hs] at h
      rw [advance_cons_of_on (stride_content_of_creation hs (by simp))]
      exact ih h
    | stop stopped =>
      rw [advance_cons_of_stop hs] at h
      subst h
      exact advance_cons_of_stop (stride_content_of_creation hs (by simpa using hne))

theorem resolveFrom_content_of_creation {links : Nat} {place : Place}
    (h : files.resolveFrom .creation links here names = .ok place) :
    files.resolveFrom .content links here names = .ok place := by
  fun_induction FileSystem.resolveFrom files .creation links here names with
  | case1 links here names found ha =>
    cases h
    exact resolveFrom_of_arrived (advance_content_of_creation ha (by simp))
  | case2 | case3 | case4 => cases h
  | case5 here names there target rest ha links ht ih =>
    rw [resolveFrom_succ_of_link (advance_content_of_creation ha (by simp)), if_neg ht]
    exact ih h

theorem resolve_content_of_creation {place : Place} (h : files.resolve .creation path = .ok place) :
    files.resolve .content path = .ok place := by
  unfold resolve at h ⊢
  grind [resolveFrom_content_of_creation]

/-- No file can be made under a name with a slash behind it. -/
theorem resolveFrom_creation_ne_slash {links : Nat} :
    files.resolveFrom .creation links here names ≠ .ok (.vacant location true) := by
  intro h
  fun_induction FileSystem.resolveFrom files .creation links here names with
  | case1 links here names place ha =>
    cases h
    induction names generalizing here with
    | nil => cases ha
    | cons name names ih =>
      cases hs : files.stride .creation here name names with
      | on next =>
        rw [advance_cons_of_on hs] at ha
        exact ih next ha
      | stop passage =>
        rw [advance_cons_of_stop hs] at ha
        subst ha
        obtain ⟨he, -, -, hempty, hslash⟩ := stride_eq_vacant_iff.mp hs
        rw [he.slash rfl hempty] at hslash
        cases hslash
  | case2 | case3 | case4 => cases h
  | case5 _ _ _ _ _ _ _ _ ih => exact ih h

theorem resolve_creation_ne_slash : files.resolve .creation path ≠ .ok (.vacant location true) :=
  fun h ↦ resolveFrom_creation_ne_slash (resolveFrom_of_resolve h)

/-! ## A file where nothing was -/

namespace Keeps

theorem advance_vacant_file (h : files.Keeps later)
    (hl : later.lookup location = some (.file content))
    (ha : files.advance .content here names = .arrived (.vacant location false)) :
    later.advance .content here names = .arrived (.found location (.file content)) := by
  induction names generalizing here with
  | nil => cases ha
  | cons name names ih =>
    cases hs : files.stride .content here name names with
    | on next =>
      rw [advance_cons_of_on hs] at ha
      rw [advance_cons_of_on (h.stride_on hs)]
      exact ih ha
    | stop passage =>
      rw [advance_cons_of_stop hs] at ha
      subst ha
      obtain ⟨he, -, rfl, -, hslash⟩ := stride_eq_vacant_iff.mp hs
      have hlast : names = [] := by simpa using hslash
      exact advance_cons_of_stop (stride_eq_found_iff.mpr ⟨he, hl, rfl, .inl ⟨hlast, nofun⟩⟩)

theorem resolveFrom_vacant_file {links : Nat} (h : files.Keeps later)
    (hl : later.lookup location = some (.file content))
    (hf : files.resolveFrom .content links here names = .ok (.vacant location false)) :
    later.resolveFrom .content links here names = .ok (.found location (.file content)) := by
  fun_induction FileSystem.resolveFrom files .content links here names with
  | case1 links here names place ha =>
    cases hf
    exact resolveFrom_of_arrived (h.advance_vacant_file hl ha)
  | case2 | case3 | case4 => cases hf
  | case5 here names there target rest ha links ht ih =>
    rw [resolveFrom_succ_of_link (h.advance_link ha), if_neg ht]
    exact ih hf

/-- A path whose last name was missing leads to the file that stands there later. -/
theorem resolve_vacant_file (h : files.Keeps later)
    (hl : later.lookup location = some (.file content))
    (hf : files.resolve .content path = .ok (.vacant location false)) :
    later.resolve .content path = .ok (.found location (.file content)) := by
  unfold resolve at hf ⊢
  grind [h.workingDirectory, h.resolveFrom_vacant_file hl]

end Keeps

/-! ## What is written -/

/-- What is written goes to a device and changes nothing, or it is the content of the file that the
path leads to afterwards, and nothing else is changed. -/
theorem write_lands (h : files.write path content = .ok later) :
    (later = files ∧ files.isDevice path = true) ∨
      ∃ location, location ≠ [] ∧ later = files.put location (.file content) ∧
        later.locate path = .ok (location, .file content) := by
  have hkeeps := write_keeps h
  have hlands {location : Location} (hne : location ≠ [])
      (hlater : later = files.put location (.file content)) :
      later.lookup location = some (.file content) := by
    rw [hlater, lookup_put files hne, if_pos rfl]
  unfold write at h
  cases hr : files.resolve .creation path with
  | error fault =>
    rw [hr] at h
    cases h
  | ok place =>
    have hcontent := resolve_content_of_creation hr
    rw [hr] at h
    cases place with
    | vacant location slash =>
      right
      obtain rfl : slash = false := by
        cases slash with
        | false => rfl
        | true => exact absurd hr resolve_creation_ne_slash
      have hne : location ≠ [] := by
        rintro rfl
        cases resolve_stands hr
      have hlater : later = files.put location (.file content) := (Except.ok.inj h).symm
      exact ⟨location, hne, hlater,
        locate_eq_ok_iff.mpr (hkeeps.resolve_vacant_file (hlands hne hlater) hcontent)⟩
    | found location node =>
      cases node with
      | file old =>
        right
        have hlocate := locate_eq_ok_iff.mpr hcontent
        have hne := ne_nil_of_lookup_file (lookup_of_locate_file hlocate)
        have hlater : later = files.put location (.file content) := (Except.ok.inj h).symm
        exact ⟨location, hne, hlater, hkeeps.locate_file hlocate (hlands hne hlater)⟩
      | directory | link | program => cases h
      | device device =>
        left
        have hdevice : files.isDevice path = true := by
          rw [isDevice, locate_eq_ok_iff.mpr hcontent]
        cases device <;> grind

end CodeRepair.FileSystem
