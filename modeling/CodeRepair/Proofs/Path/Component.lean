import CodeRepair.Proofs.Path.FileName
import CodeRepair.Proofs.Path.Order

/-!
# Components

The components of a path are its anchor and the pieces that say something.  A name behind a path adds one
component, and what says nothing adds none.  The file name is the last component, so paths that are the
same have the same extension.
-/

namespace CodeRepair.Path

variable {path other front : Path} {name : Text} {names idles : List Text}

/-- A piece between slashes that says something. -/
structure IsBusy (piece : Text) : Prop where
  slash_not_mem : '/' ∉ piece
  isIdle_eq : isIdle piece = false

theorem IsName.isBusy (h : IsName name) : IsBusy name :=
  ⟨h.slash_not_mem, h.isIdle_eq⟩

theorem isBusy_of_mem_busy (h : name ∈ busy (Text.pieces '/' path)) : IsBusy name := by
  obtain ⟨hpiece, hidle⟩ := List.mem_filter.1 h
  exact ⟨Text.not_mem_of_mem_pieces hpiece, by simpa using hidle⟩

theorem busy_of_isBusy (h : ∀ name ∈ names, IsBusy name) : busy names = names := by
  rw [busy, List.filter_eq_self]
  intro name hname
  rw [(h name hname).isIdle_eq]
  rfl

theorem isAbsolute_eq (path : Path) : path.isAbsolute = path.beginsAtRoot :=
  (beginsAtRoot_eq path).symm

theorem IsBusy.isAbsolute_eq (h : IsBusy name) : Path.isAbsolute name = false := by
  rw [Path.isAbsolute_eq, beginsAtRoot]
  cases name with
  | nil => rfl
  | cons c name =>
    have hc : c ≠ '/' := fun hc ↦ h.slash_not_mem (hc ▸ List.mem_cons_self)
    simp [hc]

/-! ## Anchors and busy pieces -/

theorem components_eq (path : Path) :
    path.components =
      path.split.1.components ++ (busy (Text.pieces '/' path)).map Component.ofPiece := by
  rw [← busy_split]
  rfl

/-- Pieces that say something are names, which only the anchor is not. -/
theorem root_not_mem_ofPiece (names : List Text) : .root ∉ names.map Component.ofPiece := by
  rw [List.mem_map]
  rintro ⟨name, -, hname⟩
  unfold Component.ofPiece at hname
  split at hname <;> cases hname

theorem current_not_mem_ofPiece (names : List Text) : .current ∉ names.map Component.ofPiece := by
  rw [List.mem_map]
  rintro ⟨name, -, hname⟩
  unfold Component.ofPiece at hname
  split at hname <;> cases hname

theorem root_mem_components_iff : .root ∈ path.components ↔ path.isAbsolute = true := by
  rw [components_eq, List.mem_append, or_iff_left (root_not_mem_ofPiece _), isAbsolute]
  cases path.split.1 <;> decide

/-- Paths that are the same begin alike. -/
theorem isAbsolute_congr (h : path.same other = true) : path.isAbsolute = other.isAbsolute := by
  rw [Bool.eq_iff_iff, ← root_mem_components_iff, ← root_mem_components_iff, same_iff.1 h]

/-- The anchor of a path stands in front of its first slash. -/
theorem split_append_slash (h : path ≠ []) (rest : Text) :
    (path ++ '/' :: rest).split.1 = path.split.1 := by
  -- Two characters decide the anchor, and behind the slash nothing changes them.
  match path with
  | [c] =>
    rw [List.singleton_append]
    unfold split
    split <;> split <;> simp_all
  | c :: d :: text =>
    rw [List.cons_append, List.cons_append]
    unfold split
    split <;> split <;> simp_all

theorem busy_pieces_append_slash (path rest : Text) :
    busy (Text.pieces '/' (path ++ '/' :: rest)) =
      busy (Text.pieces '/' path) ++ busy (Text.pieces '/' rest) := by
  rw [Text.pieces_append_cons, busy_append]

theorem busy_pieces_of_isBusy (h : IsBusy name) : busy (Text.pieces '/' name) = [name] := by
  rw [Text.pieces_of_not_mem h.slash_not_mem, busy_cons_of_not_idle h.isIdle_eq]
  rfl

/-- Idle pieces between two slashes, or behind a path, add nothing. -/
theorem busy_pieces_append_idles (path : Path) (h : ∀ piece ∈ idles, isIdle piece = true) (rest : Text)
    (hrest : rest = [] ∨ ∃ back, rest = '/' :: back) :
    busy (Text.pieces '/' (path ++ idles.flatMap ('/' :: ·) ++ rest)) =
      busy (Text.pieces '/' (path ++ rest)) := by
  induction idles generalizing path with
  | nil => simp
  | cons piece idles ih =>
    rw [List.forall_mem_cons] at h
    have hpiece : busy (Text.pieces '/' piece) = [] := by
      rw [Text.pieces_of_not_mem (slash_not_mem_of_idle h.1), busy_cons_of_idle h.1]
      rfl
    have hform : path ++ (piece :: idles).flatMap ('/' :: ·) ++ rest =
        (path ++ '/' :: piece) ++ idles.flatMap ('/' :: ·) ++ rest := by simp
    rw [hform, ih _ h.2]
    rcases hrest with rfl | ⟨back, rfl⟩
    · rw [List.append_nil, List.append_nil, busy_pieces_append_slash, hpiece, List.append_nil]
    · rw [busy_pieces_append_slash, busy_pieces_append_slash, hpiece, List.append_nil,
        busy_pieces_append_slash]

/-! ## A name behind a path -/

/-- A name that is put behind a path stands behind a slash, unless it stands there alone. -/
theorem append_eq_of_isBusy (h : IsBusy name) (path : Path) :
    path.append name = name ∧ path = [] ∨
      ∃ before, path.append name = before ++ '/' :: name ∧
        (before = path ∧ path ≠ [] ∨ path = before ++ ['/']) := by
  rw [append, h.isAbsolute_eq, if_neg Bool.false_ne_true]
  by_cases hnil : path = []
  · exact .inl ⟨by simp [hnil], hnil⟩
  · right
    by_cases hslash : path.getLast? = some '/'
    · obtain ⟨before, rfl⟩ : ∃ before, path = before ++ ['/'] := List.getLast?_eq_some_iff.1 hslash
      exact ⟨before, by simp, .inr rfl⟩
    · exact ⟨path, by simp [hnil, hslash], .inl ⟨rfl, hnil⟩⟩

theorem components_append (h : IsBusy name) (path : Path) :
    (path.append name).components = path.components ++ [Component.ofPiece name] := by
  rcases append_eq_of_isBusy h path with ⟨happend, rfl⟩ | ⟨before, happend, ⟨rfl, hne⟩ | rfl⟩
  · have hanchor : (split name).1 = .none := by
      have habsolute := h.isAbsolute_eq
      unfold split
      split
      · cases habsolute
      · cases h.isIdle_eq
      · exact absurd (by simp) h.slash_not_mem
      · rfl
    rw [happend, components_eq, hanchor, busy_pieces_of_isBusy h]
    rfl
  · rw [happend, components_eq, split_append_slash hne, busy_pieces_append_slash,
      busy_pieces_of_isBusy h, components_eq, List.map_append, List.append_assoc]
    rfl
  · have hidle : busy (Text.pieces '/' (before ++ ['/'])) = busy (Text.pieces '/' before) := by
      rw [busy_pieces_append_slash, Text.pieces_nil, busy_cons_of_idle rfl]
      exact List.append_nil _
    have hanchor : (before ++ '/' :: name).split.1 = (before ++ ['/']).split.1 := by
      cases before with
      | nil => rfl
      | cons c before => rw [split_append_slash (by simp), split_append_slash (by simp)]
    rw [happend, components_eq, hanchor, busy_pieces_append_slash, busy_pieces_of_isBusy h,
      components_eq, hidle, List.map_append, List.append_assoc]
    rfl

/-- Names that are put behind a path one after the other add their components. -/
theorem components_foldl_append (h : ∀ name ∈ names, IsBusy name) (path : Path) :
    (names.foldl append path).components = path.components ++ names.map Component.ofPiece := by
  induction names generalizing path with
  | nil => simp
  | cons name names ih =>
    rw [List.forall_mem_cons] at h
    rw [List.foldl_cons, ih h.2, components_append h.1, List.append_assoc]
    rfl

theorem components_append_slash (h : path ≠ []) : (path ++ ['/']).components = path.components := by
  rw [components_eq, split_append_slash h, busy_pieces_append_slash, Text.pieces_nil,
    busy_cons_of_idle rfl, components_eq]
  simp [busy]

/-! ## The last component -/

theorem Component.ofPiece_eq_normal_iff {piece : Text} :
    Component.ofPiece piece = .normal name ↔ piece = name ∧ name ≠ ['.', '.'] := by
  unfold Component.ofPiece
  split
  · next h => simp [h, eq_comm]
  · next h =>
    rw [Component.normal.injEq]
    exact ⟨fun he ↦ ⟨he, he ▸ h⟩, And.left⟩

/-- The file name of a path is its last component, where that is a name. -/
theorem fileName?_eq_some_iff_getLast? :
    path.fileName? = some name ↔ path.components.getLast? = some (.normal name) := by
  rw [fileName?_eq_some_iff, components_eq, List.getLast?_append, List.getLast?_map]
  cases (busy (Text.pieces '/' path)).getLast? with
  | none =>
    have hanchor : path.split.1.components.getLast? ≠ some (.normal name) := by
      cases path.split.1 <;> simp [Anchor.components]
    simpa using hanchor
  | some piece => simp [Component.ofPiece_eq_normal_iff]

/-- Paths that are the same end in the same file name. -/
theorem fileName?_congr (h : path.same other = true) : path.fileName? = other.fileName? := by
  refine Option.ext fun name ↦ ?_
  rw [fileName?_eq_some_iff_getLast?, fileName?_eq_some_iff_getLast?, same_iff.1 h]

theorem extension?_congr (h : path.same other = true) : path.extension? = other.extension? := by
  rw [extension?, extension?, fileName?_congr h]

end CodeRepair.Path
