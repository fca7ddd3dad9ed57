import CodeRepair.Proofs.FileSystem.Late
import CodeRepair.Proofs.FileSystem.Writing
import CodeRepair.Proofs.Path.FileName

/-!
# Ordinary file systems

An ordinary file system has files, directories and links, all of them in directories and under names that an
entry can bear, and the working directory is there.  Then every location that a path leads to is there, and
locations are told apart by their paths.
-/

namespace CodeRepair

namespace Location

variable {location other : Location} {name : Text}

theorem pieces_path (h : location ≠ []) (hnames : ∀ name ∈ location, Path.IsName name) :
    Text.pieces '/' (Text.join ['/'] location) = location := by
  obtain ⟨first, rest, rfl⟩ := List.exists_cons_of_ne_nil h
  rw [List.forall_mem_cons] at hnames
  rw [Path.join_cons_eq]
  exact Path.pieces_append_flatMap hnames.1.slash_not_mem fun name hname ↦
    (hnames.2 name hname).slash_not_mem

/-- The components of the path of a location are its names, from the root on. -/
theorem components_path (hnames : ∀ name ∈ location, Path.IsName name) :
    location.path.components = .root :: location.map .normal := by
  by_cases h : location = []
  · subst h
    rfl
  have hbusy : location.filter (fun piece ↦ !Path.isIdle piece) = location := by
    rw [List.filter_eq_self]
    intro name hname
    rw [(hnames name hname).isIdle_eq]
    rfl
  have hmap : location.map Path.Component.ofPiece = location.map .normal := by
    apply List.map_congr_left
    intro name hname
    rw [Path.Component.ofPiece, if_neg (hnames name hname).ne_above]
  show Path.Anchor.root.components ++ ((Text.pieces '/' (Text.join ['/'] location)).filter
    fun piece ↦ !Path.isIdle piece).map .ofPiece = _
  rw [pieces_path h hnames, hbusy, hmap]
  rfl

/-- Locations with the same path are the same. -/
theorem eq_of_same (hlocation : ∀ name ∈ location, Path.IsName name)
    (hother : ∀ name ∈ other, Path.IsName name) (h : location.path.same other.path = true) :
    location = other := by
  rw [Path.same, components_path hlocation, components_path hother, beq_iff_eq, List.cons.injEq] at h
  have hinjective : Function.Injective Path.Component.normal := fun _ _ ↦ Path.Component.normal.inj
  exact hinjective.list_map h.2

theorem append_path (hlocation : ∀ name ∈ location, Path.IsName name) (hname : Path.IsName name) :
    Path.append location.path name = (location ++ [name]).path := by
  have hrelative : Path.isAbsolute name = false := by
    cases name with
    | nil => rfl
    | cons c name =>
      have hc : c ≠ '/' := by
        rintro rfl
        exact hname.slash_not_mem List.mem_cons_self
      rw [Path.isAbsolute, ← Path.beginsAtRoot_eq]
      simp [Path.beginsAtRoot, hc]
  rw [Path.append, hrelative, if_neg Bool.false_ne_true]
  by_cases h : location = []
  · subst h
    simp [path, Text.join]
  · have hend : location.path.getLast? ≠ some '/' := by
      refine Path.getLast?_join_ne h ?_ (fun name hname ↦ (hlocation name hname).slash_not_mem) ['/']
      intro hempty
      have hidle := (hlocation _ (List.getLast_mem h)).isIdle_eq
      rw [hempty] at hidle
      cases hidle
    have hne : location.path.isEmpty = false := rfl
    rw [hne, Bool.false_or, if_neg (by simpa using hend)]
    obtain ⟨first, rest, rfl⟩ := List.exists_cons_of_ne_nil h
    simp [path, Path.join_cons_eq]

end Location

namespace FileSystem

variable {files : FileSystem} {purpose : Purpose} {here location : Location} {name : Text}
  {names rest idles after : List Text} {path : Path} {node : Node} {fault : FileFault}

/-- Files, directories and links in directories, under names that an entry can bear, with a working directory. -/
structure IsOrdinary (files : FileSystem) : Prop where
  kinds : ∀ location node, files.lookup location = some node →
    (∃ content, node = .file content) ∨ node = .directory ∨ ∃ target, node = .link target
  tree : files.IsTree
  names : ∀ location node, files.lookup location = some node → ∀ name ∈ location, Path.IsName name
  workingDirectory : files.lookup files.workingDirectory = some .directory

/-- What stands at a location is an entry, unless the location is the root. -/
theorem mem_nodes_of_lookup (h : files.lookup location = some node) (hne : location ≠ []) :
    (location, node) ∈ files.nodes := by
  rw [lookup, if_neg hne, Option.map_eq_some_iff] at h
  obtain ⟨entry, hentry, rfl⟩ := h
  have hlocation : entry.1 = location := by simpa using List.find?_some hentry
  rw [← hlocation]
  exact List.mem_of_find?_eq_some hentry

/-- A file system is ordinary if its entries are. -/
theorem isOrdinary_of_nodes
    (hnodes : ∀ location node, (location, node) ∈ files.nodes →
      ((∃ content, node = .file content) ∨ node = .directory ∨ ∃ target, node = .link target) ∧
        files.lookup location.dropLast = some .directory ∧ ∀ name ∈ location, Path.IsName name)
    (hworking : files.lookup files.workingDirectory = some .directory) : files.IsOrdinary := by
  refine ⟨fun location node h ↦ ?_, fun location name node h ↦ ?_, fun location node h ↦ ?_, hworking⟩
  · by_cases hne : location = []
    · subst hne
      exact .inr (.inl (Option.some.inj h).symm)
    · exact (hnodes location node (mem_nodes_of_lookup h hne)).1
  · have hparent := (hnodes _ node (mem_nodes_of_lookup h (by simp))).2.1
    rwa [List.dropLast_concat] at hparent
  · by_cases hne : location = []
    · subst hne
      exact nofun
    · exact (hnodes location node (mem_nodes_of_lookup h hne)).2.2

/-! ## What a path leads to is there -/

theorem IsTree.stride_on {next : Location} (h : files.IsTree)
    (hhere : files.lookup here = some .directory)
    (hs : files.stride purpose here name rest = .on next) :
    files.lookup next = some .directory := by
  rcases stride_eq_on_iff.mp hs with ⟨-, rfl⟩ | ⟨-, rfl⟩ | ⟨-, -, hl, rfl⟩
  · exact hhere
  · rcases List.eq_nil_or_concat here with rfl | ⟨front, last, rfl⟩
    · exact hhere
    · rw [List.concat_eq_append] at hhere
      rw [List.concat_eq_append, List.dropLast_concat]
      exact h front last .directory hhere
  · exact hl

theorem IsTree.advance_found (h : files.IsTree) (hhere : files.lookup here = some .directory)
    (ha : files.advance purpose here names = .arrived (.found location node)) :
    files.lookup location = some node := by
  induction names generalizing here with
  | nil =>
    cases ha
    exact hhere
  | cons name names ih =>
    cases hs : files.stride purpose here name names with
    | on next =>
      rw [advance_cons_of_on hs] at ha
      exact ih (h.stride_on hhere hs) ha
    | stop passage =>
      rw [advance_cons_of_stop hs] at ha
      subst ha
      obtain ⟨-, hl, rfl, -⟩ := stride_eq_found_iff.mp hs
      exact hl

theorem IsTree.advance_link {there : Location} {target : Path} (h : files.IsTree)
    (hhere : files.lookup here = some .directory)
    (ha : files.advance purpose here names = .link there target rest) :
    files.lookup there = some .directory := by
  induction names generalizing here with
  | nil => cases ha
  | cons name names ih =>
    cases hs : files.stride purpose here name names with
    | on next =>
      rw [advance_cons_of_on hs] at ha
      exact ih (h.stride_on hhere hs) ha
    | stop passage =>
      rw [advance_cons_of_stop hs] at ha
      subst ha
      obtain ⟨-, -, rfl, -⟩ := stride_eq_link_iff.mp hs
      exact hhere

theorem IsTree.resolveFrom_found {links : Nat} (h : files.IsTree)
    (hhere : files.lookup here = some .directory)
    (hf : files.resolveFrom purpose links here names = .ok (.found location node)) :
    files.lookup location = some node := by
  fun_induction FileSystem.resolveFrom files purpose links here names with
  | case1 links here names place ha =>
    cases hf
    exact h.advance_found hhere ha
  | case2 | case3 | case4 => cases hf
  | case5 here names there target rest ha links ht ih =>
    refine ih ?_ hf
    split
    · rfl
    · exact h.advance_link hhere ha

/-- What a path leads to in an ordinary file system stands there, directories included. -/
theorem IsOrdinary.lookup_of_locate (h : files.IsOrdinary)
    (hf : files.locate path = .ok (location, node)) : files.lookup location = some node := by
  refine h.tree.resolveFrom_found ?_ (resolveFrom_of_resolve (locate_eq_ok_iff.mp hf))
  split
  · rfl
  · exact h.workingDirectory

/-! ## Links are followed to their end -/

theorem advance_content_ne_link {target : Path} :
    files.advance .content here names ≠ .arrived (.found location (.link target)) := by
  intro ha
  induction names generalizing here with
  | nil => cases ha
  | cons name names ih =>
    cases hs : files.stride .content here name names with
    | on next =>
      rw [advance_cons_of_on hs] at ha
      exact ih ha
    | stop passage =>
      rw [advance_cons_of_stop hs] at ha
      subst ha
      obtain ⟨-, -, -, ⟨-, hpurpose⟩ | ⟨-, hlink | hpurpose⟩⟩ := stride_eq_found_iff.mp hs
      · cases hpurpose target rfl
      · cases hlink
      · cases hpurpose

/-- No path leads to a link. -/
theorem locate_ne_link {target : Path} : files.locate path ≠ .ok (location, .link target) := by
  intro hf
  have hfrom := resolveFrom_of_resolve (locate_eq_ok_iff.mp hf)
  generalize greatestLinks = links at hfrom
  generalize (if Path.beginsAtRoot path then [] else files.workingDirectory) = here at hfrom
  generalize path.names = names at hfrom
  fun_induction FileSystem.resolveFrom files .content links here names with
  | case1 links here names place ha =>
    cases hfrom
    exact advance_content_ne_link ha
  | case2 | case3 | case4 => cases hfrom
  | case5 _ _ _ _ _ _ _ _ ih => exact ih hfrom

/-! ## A name that is there -/

theorem advance_of_isIdle (hidles : ∀ name ∈ idles, Path.isIdle name = true) (more : List Text) :
    files.advance purpose here (idles ++ more) = files.advance purpose here more := by
  induction idles with
  | nil => rfl
  | cons name idles ih =>
    rw [List.forall_mem_cons] at hidles
    have hname : name = [] ∨ name = ['.'] := by simpa [Path.isIdle] using hidles.1
    have hs : files.stride purpose here name (idles ++ more) = .on here :=
      stride_eq_on_iff.mpr (.inl ⟨hname, rfl⟩)
    rw [List.cons_append, advance_cons_of_on hs]
    exact ih hidles.2

/-- Names that end in one that is there, and is no link, lead to something or fail. -/
theorem advance_name_stands (hidles : ∀ name ∈ idles, Path.isIdle name = true)
    (hafter : ∀ name ∈ after, Path.isIdle name = true)
    (hl : files.lookup (here ++ [name]) = some node) (hlink : ∀ target, node ≠ .link target)
    (hname : Path.IsName name) :
    (∃ fault, files.advance .content here (idles ++ name :: after) = .fault fault) ∨
      ∃ location found,
        files.advance .content here (idles ++ name :: after) = .arrived (.found location found) := by
  rw [advance_of_isIdle hidles]
  have hidle : name ≠ [] ∧ name ≠ ['.'] := by simpa [Path.isIdle] using hname.isIdle_eq
  cases hs : files.stride .content here name after with
  | on next =>
    have hend : files.advance .content next after = .arrived (.found next .directory) := by
      rw [← List.append_nil after, advance_of_isIdle hafter, advance]
    rw [advance_cons_of_on hs, hend]
    exact .inr ⟨next, .directory, rfl⟩
  | stop passage =>
    rw [advance_cons_of_stop hs]
    cases passage with
    | fault fault => exact .inl ⟨fault, rfl⟩
    | arrived place =>
      cases place with
      | found location found => exact .inr ⟨location, found, rfl⟩
      | vacant location slash =>
        obtain ⟨-, hnone, -⟩ := stride_eq_vacant_iff.mp hs
        rw [hl] at hnone
        cases hnone
    | link there target names =>
      obtain ⟨-, htarget, -⟩ := stride_eq_link_iff.mp hs
      rw [hl, Option.some.injEq] at htarget
      exact absurd htarget (hlink target)

/-! ## The directory in front of a name -/

/-- The directory in front of a name; where nothing is in front of it, that is the working directory. -/
def directoryOf (parent : Path) : Path :=
  if parent.isEmpty then ['.'] else parent

theorem canonical_current (files : FileSystem) :
    files.canonical ['.'] = .ok files.workingDirectory := by
  refine canonical_eq_ok_iff.mpr ⟨.directory, locate_eq_ok_iff.mpr ?_⟩
  have hnames : Path.names ['.'] = [['.']] := by decide
  have hbyte : Path.byteLength ['.'] = 1 := by decide
  simp [resolve, resolveFrom, advance, stride, hnames, hbyte, Path.greatestLength, Path.beginsAtRoot]

variable {parent : Path}

/-- Where the directory in front of a name is there, the names behind it are followed from there. -/
theorem IsOrdinary.resolveFrom_parent (h : files.IsOrdinary)
    (hparent : files.canonical (directoryOf parent) = .ok here)
    (hhere : files.lookup here = some .directory) :
    ∃ left, ∀ more, files.resolveFrom .content greatestLinks
      (if parent.beginsAtRoot then [] else files.workingDirectory) (parent.names ++ more) =
        files.resolveFrom .content left here more := by
  cases parent with
  | nil =>
    have hsame : files.canonical ['.'] = .ok here := hparent
    rw [canonical_current, Except.ok.injEq] at hsame
    subst hsame
    exact ⟨greatestLinks, fun more ↦ rfl⟩
  | cons c parent =>
    obtain ⟨node, hnode⟩ := canonical_eq_ok_iff.mp hparent
    have hlookup := h.lookup_of_locate hnode
    rw [hhere, Option.some.injEq] at hlookup
    rw [← hlookup] at hnode
    exact resolveFrom_append (resolveFrom_of_resolve (locate_eq_ok_iff.mp hnode))

/-- Where the directory in front of a name is there, none is made. -/
theorem makeDirectories_of_canonical (hparent : files.canonical (directoryOf parent) = .ok here) :
    (files.makeDirectories parent).2 = files := by
  cases parent with
  | nil => rfl
  | cons c parent => exact makeDirectories_of_contains (contains_eq_true_iff.mpr ⟨here, hparent⟩)

/-- Nothing can be written to a path that leads nowhere although its last name is there. -/
theorem IsOrdinary.write_fails (h : files.IsOrdinary) (hname : path.fileName? = some name)
    (hparent : files.canonical (directoryOf ((path.parent?).getD [])) = .ok here)
    (hl : files.lookup (here ++ [name]) = some node) (hlink : ∀ target, node ≠ .link target)
    (hpath : files.canonical path = .error fault) (content : List UInt8) :
    ∃ fault, files.write path content = .error fault := by
  obtain ⟨parent, idles, after, hp, hroot, hnames, hidles, hafter⟩ := Path.exists_names_eq hname
  rw [hp, Option.getD_some] at hparent
  obtain ⟨left, hmore⟩ := h.resolveFrom_parent hparent (h.tree here name node hl)
  have hstands := advance_name_stands hidles hafter hl hlink (Path.isName_of_fileName? hname)
  cases hr : files.resolve .creation path with
  | error fault => exact ⟨fault, by rw [write, hr]⟩
  | ok place =>
    -- what is followed for a file that may be made would be found for its content too
    have hcontent := resolve_content_of_creation hr
    have hfrom := resolveFrom_of_resolve hcontent
    rw [hnames, ← hroot, hmore] at hfrom
    obtain ⟨location, found, rfl⟩ : ∃ location found, place = .found location found := by
      rcases hstands with ⟨fault, ha⟩ | ⟨location, found, ha⟩
      · rw [resolveFrom_of_fault ha] at hfrom
        cases hfrom
      · rw [resolveFrom_of_arrived ha] at hfrom
        cases hfrom
        exact ⟨location, found, rfl⟩
    rw [canonical_eq_ok_iff.mpr ⟨found, locate_eq_ok_iff.mpr hcontent⟩] at hpath
    cases hpath

end FileSystem

end CodeRepair
