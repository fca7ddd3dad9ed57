import CodeRepair.Proofs.FileSystem.Resolution

/-!
# Growing file systems

Making directories, making a file and changing what a file holds take nothing away.  A path that
led somewhere leads to the same location afterwards, whatever links it goes through, and only the
content of a file at its end may differ.  A path that led nowhere may lead somewhere afterwards.
-/

namespace CodeRepair

/-- Nodes that every path treats alike: equal ones, and two files. -/
inductive Node.Alike : Node → Node → Prop
  | refl (node : Node) : Alike node node
  | file (content other : List UInt8) : Alike (.file content) (.file other)

theorem Node.Alike.trans {first second third : Node} (h : first.Alike second)
    (next : second.Alike third) : first.Alike third := by
  cases h with
  | refl => exact next
  | file content other =>
    cases next with
    | refl => exact .file content other
    | file _ last => exact .file content last

theorem Node.Alike.eq_directory {other : Node} (h : Node.directory.Alike other) :
    other = .directory := by
  cases h
  rfl

theorem Node.Alike.eq_link {target : Path} {other : Node} (h : (Node.link target).Alike other) :
    other = .link target := by
  cases h
  rfl

namespace FileSystem

/-! ## Directories and links -/

/-- The directories and links of a file system, which guide every path, stand in another one too. -/
structure Guides (files other : FileSystem) : Prop where
  directory : ∀ location, files.lookup location = some .directory →
    other.lookup location = some .directory
  link : ∀ location target, files.lookup location = some (.link target) →
    other.lookup location = some (.link target)

/-- The purposes for which every name but the last is followed alike. -/
def Suits (purpose later : Purpose) : Prop :=
  later = purpose ∨ purpose = .entry ∧ later = .content

theorem Enters.suits {purpose later : Purpose} {name : Text} {rest : List Text}
    (hp : Suits purpose later) (h : Enters purpose name rest) : Enters later name rest := by
  rcases hp with rfl | ⟨rfl, rfl⟩
  · exact h
  · exact { h with slash := nofun }

namespace Guides

variable {files other : FileSystem} {purpose later : Purpose} {here there : Location} {name : Text}
  {names rest : List Text} {target : Path}

theorem stride_on (h : files.Guides other) (hp : Suits purpose later)
    (hs : files.stride purpose here name rest = .on there) :
    other.stride later here name rest = .on there := by
  rw [stride_eq_on_iff] at hs ⊢
  refine hs.imp_right (Or.imp_right ?_)
  rintro ⟨he, hr, hl, rfl⟩
  exact ⟨he.suits hp, hr, h.directory _ hl, rfl⟩

theorem stride_link (h : files.Guides other) (hp : Suits purpose later)
    (hs : files.stride purpose here name rest = .stop (.link there target names)) :
    other.stride later here name rest = .stop (.link there target names) := by
  rw [stride_eq_link_iff] at hs ⊢
  obtain ⟨he, hl, hhere, hrest, hr⟩ := hs
  refine ⟨he.suits hp, h.link _ _ hl, hhere, hrest, fun hlast ↦ hr ⟨hlast.1, ?_⟩⟩
  rcases hp with rfl | ⟨rfl, -⟩
  · exact hlast.2
  · rfl

theorem advance_link (h : files.Guides other) (hp : Suits purpose later)
    (ha : files.advance purpose here names = .link there target rest) :
    other.advance later here names = .link there target rest := by
  induction names generalizing here with
  | nil => cases ha
  | cons name names ih =>
    cases hs : files.stride purpose here name names with
    | on next =>
      rw [advance_cons_of_on hs] at ha
      rw [advance_cons_of_on (h.stride_on hp hs)]
      exact ih ha
    | stop passage =>
      rw [advance_cons_of_stop hs] at ha
      subst ha
      rw [advance_cons_of_stop (h.stride_link hp hs)]

end Guides

/-- Whatever stands in a file system also stands in a later one, where a file may hold something
else. -/
structure Keeps (files later : FileSystem) : Prop where
  workingDirectory : later.workingDirectory = files.workingDirectory
  lookup : ∀ location node, files.lookup location = some node →
    ∃ other, later.lookup location = some other ∧ node.Alike other

namespace Keeps

variable {files later : FileSystem} {purpose : Purpose} {here there location : Location}
  {node : Node} {name : Text} {names rest : List Text} {path target : Path}

theorem refl (files : FileSystem) : files.Keeps files :=
  ⟨rfl, fun _ node h ↦ ⟨node, h, .refl node⟩⟩

theorem trans {last : FileSystem} (h : files.Keeps later) (next : later.Keeps last) :
    files.Keeps last := by
  refine ⟨next.workingDirectory.trans h.workingDirectory, fun location node hn ↦ ?_⟩
  obtain ⟨middle, hm, alike⟩ := h.lookup location node hn
  obtain ⟨other, ho, alike'⟩ := next.lookup location middle hm
  exact ⟨other, ho, alike.trans alike'⟩

/-- A node takes the place of nothing or of a node like it. -/
theorem put (files : FileSystem) (hl : location ≠ [])
    (h : ∀ old, files.lookup location = some old → old.Alike node) :
    files.Keeps (files.put location node) := by
  refine ⟨rfl, fun other old ho ↦ ?_⟩
  rw [lookup_put files hl]
  by_cases he : other = location
  · subst he
    exact ⟨node, if_pos rfl, h old ho⟩
  · exact ⟨old, by rw [if_neg he, ho], .refl old⟩

theorem lookup_directory (h : files.Keeps later)
    (hl : files.lookup location = some .directory) : later.lookup location = some .directory := by
  obtain ⟨other, ho, alike⟩ := h.lookup location .directory hl
  rw [ho, alike.eq_directory]

theorem lookup_link (h : files.Keeps later) (hl : files.lookup location = some (.link target)) :
    later.lookup location = some (.link target) := by
  obtain ⟨other, ho, alike⟩ := h.lookup location (.link target) hl
  rw [ho, alike.eq_link]

/-! ## Paths that lead somewhere -/

theorem guides (h : files.Keeps later) : files.Guides later :=
  ⟨fun _ ↦ h.lookup_directory, fun _ _ ↦ h.lookup_link⟩

theorem stride_on (h : files.Keeps later) (hs : files.stride purpose here name rest = .on there) :
    later.stride purpose here name rest = .on there :=
  h.guides.stride_on (.inl rfl) hs

theorem stride_found (h : files.Keeps later)
    (hs : files.stride purpose here name rest = .stop (.arrived (.found location node))) :
    ∃ other, later.stride purpose here name rest = .stop (.arrived (.found location other)) ∧
      node.Alike other := by
  obtain ⟨he, hl, rfl, hr⟩ := stride_eq_found_iff.mp hs
  obtain ⟨other, ho, alike⟩ := h.lookup _ node hl
  refine ⟨other, stride_eq_found_iff.mpr ⟨he, ho, rfl, ?_⟩, alike⟩
  cases alike with
  | refl => exact hr
  | file => simpa using hr

theorem advance_link (h : files.Keeps later)
    (ha : files.advance purpose here names = .link there target rest) :
    later.advance purpose here names = .link there target rest :=
  h.guides.advance_link (.inl rfl) ha

theorem advance_found (h : files.Keeps later)
    (ha : files.advance purpose here names = .arrived (.found location node)) :
    ∃ other, later.advance purpose here names = .arrived (.found location other) ∧
      node.Alike other := by
  induction names generalizing here with
  | nil =>
    cases ha
    exact ⟨.directory, rfl, .refl _⟩
  | cons name names ih =>
    cases hs : files.stride purpose here name names with
    | on next =>
      rw [advance_cons_of_on hs] at ha
      rw [advance_cons_of_on (h.stride_on hs)]
      exact ih ha
    | stop passage =>
      rw [advance_cons_of_stop hs] at ha
      subst ha
      obtain ⟨other, ho, alike⟩ := h.stride_found hs
      exact ⟨other, advance_cons_of_stop ho, alike⟩

theorem resolveFrom_found {links : Nat} (h : files.Keeps later)
    (hf : files.resolveFrom purpose links here names = .ok (.found location node)) :
    ∃ other, later.resolveFrom purpose links here names = .ok (.found location other) ∧
      node.Alike other := by
  fun_induction FileSystem.resolveFrom files purpose links here names with
  | case1 links here names place ha =>
    cases hf
    obtain ⟨other, ho, alike⟩ := h.advance_found ha
    exact ⟨other, resolveFrom_of_arrived ho, alike⟩
  | case2 | case3 | case4 => cases hf
  | case5 here names there target rest ha links ht ih =>
    rw [resolveFrom_succ_of_link (h.advance_link ha), if_neg ht]
    exact ih hf

/-- A path that leads somewhere leads to the same location later. -/
theorem resolve_found (h : files.Keeps later)
    (hf : files.resolve purpose path = .ok (.found location node)) :
    ∃ other, later.resolve purpose path = .ok (.found location other) ∧ node.Alike other := by
  unfold resolve at hf ⊢
  split at hf
  · cases hf
  split at hf
  · cases hf
  split at hf
  · cases hf
  rename_i hnull hempty hlong
  rw [if_neg hnull, if_neg hempty, if_neg hlong, h.workingDirectory]
  exact h.resolveFrom_found hf

theorem locate (h : files.Keeps later) (hf : files.locate path = .ok (location, node)) :
    ∃ other, later.locate path = .ok (location, other) ∧ node.Alike other := by
  obtain ⟨other, ho, alike⟩ := h.resolve_found (locate_eq_ok_iff.mp hf)
  exact ⟨other, locate_eq_ok_iff.mpr ho, alike⟩

theorem canonical (h : files.Keeps later) (hf : files.canonical path = .ok location) :
    later.canonical path = .ok location := by
  obtain ⟨node, hn⟩ := canonical_eq_ok_iff.mp hf
  obtain ⟨other, ho, -⟩ := h.locate hn
  exact canonical_eq_ok_iff.mpr ⟨other, ho⟩

/-- A file is read where it stood, with what stands there later. -/
theorem locate_file {content other : List UInt8} (h : files.Keeps later)
    (hf : files.locate path = .ok (location, .file content))
    (hl : later.lookup location = some (.file other)) :
    later.locate path = .ok (location, .file other) := by
  obtain ⟨node, hn, alike⟩ := h.locate hf
  have hs := resolve_stands (locate_eq_ok_iff.mp hn)
  rcases hs with rfl | hs
  · cases alike
  · rw [hl, Option.some.injEq] at hs
    rw [hn, hs]

/-! ## Paths that lead to a new directory -/

theorem advance_vacant {slash : Bool} (h : files.Keeps later)
    (hl : later.lookup location = some .directory)
    (ha : files.advance .content here names = .arrived (.vacant location slash)) :
    later.advance .content here names = .arrived (.found location .directory) := by
  induction names generalizing here with
  | nil => cases ha
  | cons name names ih =>
    cases hs : files.stride .content here name names with
    | on next =>
      rw [advance_cons_of_on hs] at ha
      rw [advance_cons_of_on (h.stride_on hs)]
      exact ih ha
    | stop passage =>
      rw [advance_cons_of_stop hs] at ha
      subst ha
      obtain ⟨he, -, rfl, hr, -⟩ := stride_eq_vacant_iff.mp hs
      exact advance_cons_of_stop (stride_eq_found_iff.mpr ⟨he, hl, rfl, .inr ⟨hr, .inl rfl⟩⟩)

/-- A path whose last name was missing leads to the directory that stands there later. -/
theorem resolveFrom_vacant {links : Nat} {slash : Bool} (h : files.Keeps later)
    (hl : later.lookup location = some .directory)
    (hf : files.resolveFrom .content links here names = .ok (.vacant location slash)) :
    later.resolveFrom .content links here names = .ok (.found location .directory) := by
  fun_induction FileSystem.resolveFrom files .content links here names with
  | case1 links here names place ha =>
    cases hf
    exact resolveFrom_of_arrived (h.advance_vacant hl ha)
  | case2 | case3 | case4 => cases hf
  | case5 here names there target rest ha links ht ih =>
    rw [resolveFrom_succ_of_link (h.advance_link ha), if_neg ht]
    exact ih hf

end Keeps

/-! ## Writing -/

section Writing

variable {files later : FileSystem} {location : Location} {path : Path} {old content : List UInt8}

theorem lookup_of_locate_file (h : files.locate path = .ok (location, .file content)) :
    files.lookup location = some (.file content) := by
  rcases resolve_stands (locate_eq_ok_iff.mp h) with hd | hl
  · cases hd
  · exact hl

theorem read_of_locate_file (h : files.locate path = .ok (location, .file content)) :
    files.read path = .ok content := by
  rw [read, h]

theorem ne_nil_of_lookup_file (h : files.lookup location = some (.file content)) :
    location ≠ [] := by
  rintro rfl
  cases h

theorem write_of_locate_file (h : files.locate path = .ok (location, .file old)) :
    files.write path content = .ok (files.put location (.file content)) := by
  rw [write, resolve_creation_file.mpr (locate_eq_ok_iff.mp h)]

/-- Writing to a path changes nothing, or the file that the path leads to, or it makes a file where
nothing was. -/
theorem write_eq_ok (h : files.write path content = .ok later) :
    later = files ∨ ∃ location, later = files.put location (.file content) ∧
      ((∃ old, files.locate path = .ok (location, .file old)) ∨
        files.lookup location = none) := by
  unfold write at h
  cases hr : files.resolve .creation path with
  | error fault =>
    rw [hr] at h
    cases h
  | ok place =>
    rw [hr] at h
    cases place with
    | vacant location slash =>
      cases h
      exact .inr ⟨location, rfl, .inr (resolve_stands hr)⟩
    | found location node =>
      cases node with
      | file old =>
        cases h
        exact .inr ⟨location, rfl,
          .inl ⟨old, locate_eq_ok_iff.mpr (resolve_creation_file.mp hr)⟩⟩
      | directory | link | program => cases h
      | device device => cases device <;> grind

theorem write_keeps (h : files.write path content = .ok later) : files.Keeps later := by
  rcases write_eq_ok h with rfl | ⟨location, rfl, ⟨old, ho⟩ | hn⟩
  · exact .refl _
  · have hl := lookup_of_locate_file ho
    refine .put files (ne_nil_of_lookup_file hl) fun node hnode ↦ ?_
    rw [hl, Option.some.injEq] at hnode
    exact hnode ▸ .file old content
  · refine .put files (by rintro rfl; cases hn) fun node hnode ↦ ?_
    rw [hn] at hnode
    cases hnode

/-- A file is unchanged when something is written to a path that does not lead to it. -/
theorem lookup_write_of_ne (h : files.write path content = .ok later)
    (hl : files.lookup location = some (.file old))
    (hne : ∀ older, files.locate path ≠ .ok (location, .file older)) :
    later.lookup location = some (.file old) := by
  rcases write_eq_ok h with rfl | ⟨other, rfl, ⟨older, ho⟩ | hn⟩
  · exact hl
  · have hother : location ≠ other := by
      rintro rfl
      exact hne _ ho
    rw [lookup_put files (ne_nil_of_lookup_file (lookup_of_locate_file ho)), if_neg hother, hl]
  · have hother : location ≠ other := by
      rintro rfl
      rw [hl] at hn
      cases hn
    rw [lookup_put files (by rintro rfl; cases hn), if_neg hother, hl]

end Writing

end FileSystem

end CodeRepair
