import CodeRepair.FileSystem.Operation
import Mathlib.Tactic.Common

/-!
# What a resolution finds

Where a path ends, the file system holds what was found there, or nothing where the last name is
missing.  The three purposes part only at the last name: a file that is found for its content is
found for creation as well, and whatever is found for its content has an entry.
-/

namespace CodeRepair

/-- The file system holds what was found at a place.  A path that goes nowhere, such as `.` or `..`,
finds a directory without asking. -/
def Place.Stands (files : FileSystem) : Place → Prop
  | .found location node => node = .directory ∨ files.lookup location = some node
  | .vacant location _ => files.lookup location = none

/-- The file system holds what a passage ends at. -/
def Passage.Stands (files : FileSystem) : Passage → Prop
  | .arrived place => place.Stands files
  | _ => True

namespace Path

/-- Names that end in a slash. -/
def Slashed (names : List Text) : Prop :=
  names.getLast? = some []

theorem slashed_cons {name : Text} {rest : List Text} (hr : rest ≠ []) :
    Slashed (name :: rest) ↔ Slashed rest := by
  rw [Slashed, Slashed, List.getLast?_cons_of_ne_nil hr]

theorem slashed_append (names : List Text) {rest : List Text}
    (h : Slashed rest) : Slashed (names ++ rest) := by
  rw [Slashed] at h
  rw [Slashed, List.getLast?_append, h, Option.some_or]

theorem slashed_of_all_isEmpty {rest : List Text} (h : rest.all List.isEmpty = true)
    (hr : rest ≠ []) : Slashed rest := by
  obtain ⟨last, hl⟩ := Option.ne_none_iff_exists'.mp (mt List.getLast?_eq_none_iff.mp hr)
  have he := List.all_eq_true.mp h last (List.mem_of_getLast? hl)
  rw [Slashed, hl, List.isEmpty_iff.mp he]

end Path

/-- A passage that ends at no file, with a slash still to come if it stops at a link. -/
def Passage.Slashed : Passage → Prop
  | .arrived (.found _ (.file _)) => False
  | .link _ _ rest => Path.Slashed rest
  | _ => True

namespace FileSystem

variable {files : FileSystem} {purpose : Purpose} {here location : Location} {name : Text}
  {rest names : List Text} {place : Place} {passage : Passage} {path : Path}

theorem advance_cons_of_on {next : Location} (h : files.stride purpose here name rest = .on next) :
    files.advance purpose here (name :: rest) = files.advance purpose next rest := by
  rw [advance, h]

theorem advance_cons_of_stop (h : files.stride purpose here name rest = .stop passage) :
    files.advance purpose here (name :: rest) = passage := by
  rw [advance, h]

/-! ## One name -/

/-- The name is looked up in the directory, with such names behind it. -/
structure Enters (purpose : Purpose) (name : Text) (rest : List Text) : Prop where
  ne_nil : name ≠ []
  ne_here : name ≠ ['.']
  ne_above : name ≠ ['.', '.']
  slash : purpose = .creation → rest.all List.isEmpty = true → rest = []
  fits : Path.byteLength name ≤ Path.greatestName

theorem stride_eq_on_iff {next : Location} :
    files.stride purpose here name rest = .on next ↔
      (name = [] ∨ name = ['.']) ∧ next = here ∨ name = ['.', '.'] ∧ next = here.dropLast ∨
        Enters purpose name rest ∧ rest.all List.isEmpty = false ∧
          files.lookup (here ++ [name]) = some .directory ∧ next = here ++ [name] := by
  unfold stride enter
  cases hl : files.lookup (here ++ [name]) with
  | none => grind [Enters]
  | some node => cases node <;> grind [Enters]

theorem stride_eq_found_iff {node : Node} :
    files.stride purpose here name rest = .stop (.arrived (.found location node)) ↔
      Enters purpose name rest ∧ files.lookup (here ++ [name]) = some node ∧
        location = here ++ [name] ∧
          (rest = [] ∧ (∀ target, node = .link target → purpose = .entry) ∨
            rest.all List.isEmpty = true ∧ (node = .directory ∨ purpose = .entry)) := by
  unfold stride enter
  cases hl : files.lookup (here ++ [name]) with
  | none => grind [Enters]
  | some node => cases node <;> grind [Enters]

theorem stride_eq_vacant_iff {slash : Bool} :
    files.stride purpose here name rest = .stop (.arrived (.vacant location slash)) ↔
      Enters purpose name rest ∧ files.lookup (here ++ [name]) = none ∧
        location = here ++ [name] ∧ rest.all List.isEmpty = true ∧ slash = !rest.isEmpty := by
  unfold stride enter
  cases hl : files.lookup (here ++ [name]) with
  | none => grind [Enters]
  | some node => cases node <;> grind [Enters]

theorem stride_eq_link_iff {target : Path} :
    files.stride purpose here name rest = .stop (.link location target names) ↔
      Enters purpose name rest ∧ files.lookup (here ++ [name]) = some (.link target) ∧
        location = here ∧ names = rest ∧
          ¬ (rest.all List.isEmpty = true ∧ purpose = .entry) := by
  unfold stride enter
  cases hl : files.lookup (here ++ [name]) with
  | none => grind [Enters]
  | some node => cases node <;> grind [Enters]

/-! ## What stands at the end -/

theorem stride_stands (h : files.stride purpose here name rest = .stop passage) :
    passage.Stands files := by
  match passage, h with
  | .arrived (.found location node), h =>
    obtain ⟨-, hl, rfl, -⟩ := stride_eq_found_iff.mp h
    exact .inr hl
  | .arrived (.vacant location slash), h =>
    obtain ⟨-, hl, rfl, -⟩ := stride_eq_vacant_iff.mp h
    exact hl
  | .fault _, _ | .link .., _ => trivial

theorem advance_stands (files : FileSystem) (purpose : Purpose) (here : Location)
    (names : List Text) : (files.advance purpose here names).Stands files := by
  induction names generalizing here with
  | nil => exact .inl rfl
  | cons name rest ih =>
    cases h : files.stride purpose here name rest with
    | on next =>
      rw [advance_cons_of_on h]
      exact ih next
    | stop passage =>
      rw [advance_cons_of_stop h]
      exact stride_stands h

theorem resolveFrom_of_arrived {links : Nat}
    (h : files.advance purpose here names = .arrived place) :
    files.resolveFrom purpose links here names = .ok place := by
  unfold resolveFrom
  rw [h]

theorem resolveFrom_of_fault {links : Nat} {fault : FileFault}
    (h : files.advance purpose here names = .fault fault) :
    files.resolveFrom purpose links here names = .error fault := by
  unfold resolveFrom
  rw [h]

theorem resolveFrom_succ_of_link {links : Nat} {there : Location} {target : Path}
    (h : files.advance purpose here names = .link there target rest) :
    files.resolveFrom purpose (links + 1) here names =
      if target.isEmpty then .error .notFound
      else files.resolveFrom purpose links (if Path.beginsAtRoot target then [] else there)
        (Path.names target ++ rest) := by
  rw [resolveFrom, h]

theorem resolveFrom_stands {links : Nat}
    (h : files.resolveFrom purpose links here names = .ok place) : place.Stands files := by
  fun_induction FileSystem.resolveFrom files purpose links here names with
  | case1 links here names found ha =>
    have hs := files.advance_stands purpose here names
    rw [ha] at hs
    cases h
    exact hs
  | case2 | case3 | case4 => cases h
  | case5 here names there target rest ha links ht ih => exact ih h

theorem resolveFrom_of_resolve
    (h : files.resolve purpose path = .ok place) :
    files.resolveFrom purpose greatestLinks
      (if Path.beginsAtRoot path then [] else files.workingDirectory) (Path.names path) =
        .ok place := by
  unfold resolve at h
  split at h
  · cases h
  split at h
  · cases h
  split at h
  · cases h
  exact h

/-- The file system holds what a path leads to, and nothing where its last name is missing. -/
theorem resolve_stands (h : files.resolve purpose path = .ok place) : place.Stands files :=
  resolveFrom_stands (resolveFrom_of_resolve h)

theorem locate_eq_ok_iff {node : Node} :
    files.locate path = .ok (location, node) ↔
      files.resolve .content path = .ok (.found location node) := by
  unfold locate
  cases files.resolve .content path with
  | error fault => simp
  | ok place => cases place <;> simp

theorem canonical_eq_ok_iff :
    files.canonical path = .ok location ↔ ∃ node, files.locate path = .ok (location, node) := by
  unfold canonical
  cases files.locate path with
  | error fault => simp [Except.map]
  | ok found => cases found; simp [Except.map]

theorem contains_eq_true_iff :
    files.contains path = true ↔ ∃ location, files.canonical path = .ok location := by
  unfold contains canonical
  cases files.locate path <;> simp [Except.map]

theorem contains_eq_false_iff :
    files.contains path = false ↔ ∃ fault, files.canonical path = .error fault := by
  unfold contains canonical
  cases files.locate path <;> simp [Except.map]

/-! ## Purposes -/

/-- To work on an entry, a path is followed as it is for its content, or something is there. -/
theorem stride_entry (files : FileSystem) (here : Location) (name : Text) (rest : List Text) :
    files.stride .entry here name rest = files.stride .content here name rest ∨
      ∃ location node,
        files.stride .entry here name rest = .stop (.arrived (.found location node)) := by
  unfold stride enter
  grind

theorem advance_entry (files : FileSystem) (here : Location) (names : List Text) :
    files.advance .entry here names = files.advance .content here names ∨
      ∃ location node, files.advance .entry here names = .arrived (.found location node) := by
  induction names generalizing here with
  | nil => exact .inl rfl
  | cons name rest ih =>
    rcases files.stride_entry here name rest with h | ⟨location, node, h⟩
    · unfold advance
      rw [h]
      cases files.stride .content here name rest with
      | on next => exact ih next
      | stop passage => exact .inl rfl
    · exact .inr ⟨location, node, advance_cons_of_stop h⟩

theorem resolveFrom_entry (files : FileSystem) (links : Nat) (here : Location)
    (names : List Text) :
    files.resolveFrom .entry links here names = files.resolveFrom .content links here names ∨
      ∃ location node,
        files.resolveFrom .entry links here names = .ok (.found location node) := by
  induction links generalizing here names with
  | zero =>
    rcases files.advance_entry here names with h | ⟨location, node, h⟩
    · left
      simp only [resolveFrom, h]
    · exact .inr ⟨location, node, resolveFrom_of_arrived h⟩
  | succ links ih =>
    rcases files.advance_entry here names with h | ⟨location, node, h⟩
    · cases ha : files.advance .content here names with
      | arrived place =>
        exact .inl ((resolveFrom_of_arrived (h.trans ha)).trans (resolveFrom_of_arrived ha).symm)
      | fault fault =>
        exact .inl ((resolveFrom_of_fault (h.trans ha)).trans (resolveFrom_of_fault ha).symm)
      | link there target rest =>
        rw [resolveFrom_succ_of_link (h.trans ha), resolveFrom_succ_of_link ha]
        split
        · exact .inl rfl
        · exact ih ..
    · exact .inr ⟨location, node, resolveFrom_of_arrived h⟩

/-- An entry is found, or a path leads to where it leads for its content. -/
theorem resolve_entry (files : FileSystem) (path : Path) :
    files.resolve .entry path = files.resolve .content path ∨
      ∃ location node, files.resolve .entry path = .ok (.found location node) := by
  unfold resolve
  split
  · exact .inl rfl
  split
  · exact .inl rfl
  split
  · exact .inl rfl
  exact files.resolveFrom_entry ..

theorem stride_creation (files : FileSystem) (here : Location)
    (h : ¬ Path.Slashed (name :: rest)) :
    files.stride .creation here name rest = files.stride .content here name rest := by
  have hr : (rest.all List.isEmpty && !rest.isEmpty) = false := by
    rw [Bool.eq_false_iff]
    intro ha
    simp only [Bool.and_eq_true, Bool.not_eq_true', List.isEmpty_eq_false_iff] at ha
    exact h ((Path.slashed_cons ha.2).mpr (Path.slashed_of_all_isEmpty ha.1 ha.2))
  simp [stride, enter, hr]

theorem advance_creation (files : FileSystem) (here : Location) (h : ¬ Path.Slashed names) :
    files.advance .creation here names = files.advance .content here names := by
  induction names generalizing here with
  | nil => rfl
  | cons name rest ih =>
    unfold advance
    rw [files.stride_creation here h]
    cases files.stride .content here name rest with
    | on next =>
      by_cases hr : rest = []
      · subst hr
        rfl
      · exact ih next (mt (Path.slashed_cons hr).mpr h)
    | stop passage => rfl

theorem stride_slashed (hp : purpose ≠ .entry) (h : Path.Slashed (name :: rest))
    (hs : files.stride purpose here name rest = .stop passage) : Passage.Slashed passage := by
  by_cases hr : rest = []
  · subst hr
    have hn : name = [] := by simpa [Path.Slashed] using h
    simp [stride, hn] at hs
  · rw [Path.slashed_cons hr] at h
    unfold stride enter at hs
    grind [Passage.Slashed]

theorem advance_slashed (files : FileSystem) (here : Location) (hp : purpose ≠ .entry)
    (h : Path.Slashed names) : Passage.Slashed (files.advance purpose here names) := by
  induction names generalizing here with
  | nil => cases h
  | cons name rest ih =>
    cases hs : files.stride purpose here name rest with
    | on next =>
      rw [advance_cons_of_on hs]
      by_cases hr : rest = []
      · subst hr
        trivial
      · exact ih next ((Path.slashed_cons hr).mp h)
    | stop passage =>
      rw [advance_cons_of_stop hs]
      exact stride_slashed hp h hs

/-- A path that ends in a slash leads to no file. -/
theorem resolveFrom_slashed {links : Nat} {content : List UInt8} (hp : purpose ≠ .entry)
    (h : Path.Slashed names) :
    files.resolveFrom purpose links here names ≠ .ok (.found location (.file content)) := by
  intro hf
  fun_induction FileSystem.resolveFrom files purpose links here names with
  | case1 links here names place ha =>
    have hs := files.advance_slashed here hp h
    cases hf
    rw [ha] at hs
    exact hs
  | case2 | case3 | case4 => cases hf
  | case5 here names there target rest ha links ht ih =>
    have hs := files.advance_slashed here hp h
    rw [ha] at hs
    exact ih (Path.slashed_append _ hs) hf

theorem resolveFrom_creation_file {links : Nat} {content : List UInt8} :
    files.resolveFrom .creation links here names = .ok (.found location (.file content)) ↔
      files.resolveFrom .content links here names = .ok (.found location (.file content)) := by
  induction links generalizing here names with
  | zero =>
    by_cases h : Path.Slashed names
    · exact iff_of_false (resolveFrom_slashed (by decide) h) (resolveFrom_slashed (by decide) h)
    · simp only [resolveFrom, files.advance_creation here h]
  | succ links ih =>
    by_cases h : Path.Slashed names
    · exact iff_of_false (resolveFrom_slashed (by decide) h) (resolveFrom_slashed (by decide) h)
    · unfold resolveFrom
      rw [files.advance_creation here h]
      cases files.advance .content here names with
      | arrived | fault => rfl
      | link there target rest =>
        dsimp only
        split
        · rfl
        · exact ih

/-- A file is found to be written exactly where it is found to be read. -/
theorem resolve_creation_file {content : List UInt8} :
    files.resolve .creation path = .ok (.found location (.file content)) ↔
      files.resolve .content path = .ok (.found location (.file content)) := by
  unfold resolve
  split
  · rfl
  split
  · rfl
  split
  · rfl
  exact resolveFrom_creation_file

/-! ## What follows names -/

theorem advance_append_of_idle (h : names.all List.isEmpty = true) (more : List Text) :
    files.advance purpose here (names ++ more) = files.advance purpose here more := by
  induction names with
  | nil => rfl
  | cons name rest ih =>
    simp only [List.all_cons, Bool.and_eq_true, List.isEmpty_iff] at h
    have hs : files.stride purpose here name (rest ++ more) = .on here := by simp [stride, h.1]
    rw [List.cons_append, advance_cons_of_on hs]
    exact ih h.2

theorem advance_of_idle (h : names.all List.isEmpty = true) :
    files.advance purpose here names = .arrived (.found here .directory) := by
  rw [← List.append_nil names, advance_append_of_idle h]
  rfl

theorem Enters.append {more : List Text} (h : Enters .content name rest) :
    Enters .content name (rest ++ more) :=
  ⟨h.ne_nil, h.ne_here, h.ne_above, by simp, h.fits⟩

theorem stride_append_of_on {next : Location} (more : List Text)
    (h : files.stride .content here name rest = .on next) :
    files.stride .content here name (rest ++ more) = .on next := by
  rw [stride_eq_on_iff] at h ⊢
  refine h.imp_right (Or.imp_right ?_)
  rintro ⟨he, hr, hl⟩
  exact ⟨he.append, by rw [List.all_append, hr, Bool.false_and], hl⟩

theorem stride_append_of_link {there : Location} {target : Path} (more : List Text)
    (h : files.stride .content here name rest = .stop (.link there target names)) :
    files.stride .content here name (rest ++ more) =
      .stop (.link there target (names ++ more)) := by
  obtain ⟨he, hl, rfl, rfl, -⟩ := stride_eq_link_iff.mp h
  exact stride_eq_link_iff.mpr ⟨he.append, hl, rfl, rfl, by simp⟩

/-- A directory that is found at the last name is gone through when others follow. -/
theorem stride_append_of_directory (more : List Text)
    (h : files.stride .content here name rest = .stop (.arrived (.found location .directory))) :
    files.advance .content here (name :: (rest ++ more)) =
      files.advance .content location more := by
  obtain ⟨he, hl, rfl, hr⟩ := stride_eq_found_iff.mp h
  have hrest : rest.all List.isEmpty = true := by
    rcases hr with ⟨rfl, -⟩ | ⟨hr, -⟩
    · rfl
    · exact hr
  by_cases hm : more.all List.isEmpty = true
  · have hs : files.stride .content here name (rest ++ more) =
        .stop (.arrived (.found (here ++ [name]) .directory)) :=
      stride_eq_found_iff.mpr
        ⟨he.append, hl, rfl, .inr ⟨by rw [List.all_append, hrest, hm]; rfl, .inl rfl⟩⟩
    rw [advance_cons_of_stop hs, advance_of_idle hm]
  · have hs : files.stride .content here name (rest ++ more) = .on (here ++ [name]) :=
      stride_eq_on_iff.mpr (.inr (.inr
        ⟨he.append, by rw [List.all_append, hrest, Bool.eq_false_iff.mpr hm]; rfl, hl, rfl⟩))
    rw [advance_cons_of_on hs, advance_append_of_idle hrest]

theorem advance_append_of_link {there : Location} {target : Path} (more : List Text)
    (h : files.advance .content here names = .link there target rest) :
    files.advance .content here (names ++ more) = .link there target (rest ++ more) := by
  induction names generalizing here with
  | nil => cases h
  | cons name names ih =>
    rw [List.cons_append]
    cases hs : files.stride .content here name names with
    | on next =>
      rw [advance_cons_of_on hs] at h
      rw [advance_cons_of_on (stride_append_of_on more hs)]
      exact ih h
    | stop passage =>
      rw [advance_cons_of_stop hs] at h
      subst h
      rw [advance_cons_of_stop (stride_append_of_link more hs)]

theorem advance_append_of_directory (more : List Text)
    (h : files.advance .content here names = .arrived (.found location .directory)) :
    files.advance .content here (names ++ more) = files.advance .content location more := by
  induction names generalizing here with
  | nil =>
    cases h
    rfl
  | cons name names ih =>
    rw [List.cons_append]
    cases hs : files.stride .content here name names with
    | on next =>
      rw [advance_cons_of_on hs] at h
      rw [advance_cons_of_on (stride_append_of_on more hs)]
      exact ih h
    | stop passage =>
      rw [advance_cons_of_stop hs] at h
      subst h
      exact stride_append_of_directory more hs

/-- Where names lead to a directory, the names that follow them are followed from there, with some
links used up. -/
theorem resolveFrom_append {links : Nat}
    (h : files.resolveFrom .content links here names = .ok (.found location .directory)) :
    ∃ left, ∀ more, files.resolveFrom .content links here (names ++ more) =
      files.resolveFrom .content left location more := by
  fun_induction FileSystem.resolveFrom files .content links here names with
  | case1 links here names place ha =>
    cases h
    refine ⟨links, fun more ↦ ?_⟩
    rw [resolveFrom, advance_append_of_directory more ha, ← resolveFrom]
  | case2 | case3 | case4 => cases h
  | case5 here names there target rest ha links ht ih =>
    obtain ⟨left, hl⟩ := ih h
    refine ⟨left, fun more ↦ ?_⟩
    rw [resolveFrom_succ_of_link (advance_append_of_link more ha), if_neg ht, ← List.append_assoc,
      hl more]

end FileSystem

end CodeRepair
