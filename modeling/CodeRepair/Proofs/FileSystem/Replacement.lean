import CodeRepair.Proofs.FileSystem.Writing

/-!
# Where a replaced file stands

A file that is moved in the place of another one stands where the path to the other one ended, and
afterwards the path leads to it.  There is one exception: a path can go through the very link that it
names in the end, and once a file has taken the place of that link, the path leads nowhere.
-/

namespace CodeRepair

/-- Where a path ends: at a node, or at a missing name. -/
def Place.ofNode (location : Location) : Option Node → Place
  | none => .vacant location false
  | some node => .found location node

namespace Path

variable {name : Text} {names rest : List Text} {path : Path}

theorem not_slashed_tail (h : ¬ Slashed (name :: rest)) : ¬ Slashed rest := by
  by_cases hr : rest = []
  · subst hr
    exact nofun
  · rwa [slashed_cons hr] at h

theorem slashed_of_append (hr : rest ≠ []) (h : Slashed (names ++ rest)) : Slashed rest := by
  obtain ⟨last, hl⟩ := Option.ne_none_iff_exists'.mp (mt List.getLast?_eq_none_iff.mp hr)
  rwa [Slashed, List.getLast?_append, hl, Option.some_or, ← hl] at h

theorem not_slashed_names (h : path.getLast? ≠ some '/') : ¬ Slashed (Path.names path) := by
  intro hs
  have hempty : [] ∈ Path.names path := List.mem_of_getLast? hs
  simp [Path.names, h] at hempty

end Path

/-- A place is at none of some locations, or it is a directory, which a path may come back to without
looking at it. -/
def Place.IsOff (changed : List Location) : Place → Prop
  | .found location node => location ∈ changed → node = .directory
  | .vacant location _ => location ∉ changed

namespace FileSystem

variable {files other made later : FileSystem} {purpose : Purpose} {here location : Location}
  {changed : List Location} {name : Text} {names rest : List Text} {path : Path} {place : Place}
  {node : Node}

/-- A path ends at a location if it comes there at all: there is no directory and no link. -/
structure Blocks (files : FileSystem) (location : Location) : Prop where
  directory : files.lookup location ≠ some .directory
  link : ∀ target, files.lookup location ≠ some (.link target)

/-- Two file systems are the same but for some locations, where every path ends in the first one. -/
structure Differs (files other : FileSystem) (changed : List Location) : Prop where
  workingDirectory : other.workingDirectory = files.workingDirectory
  lookup : ∀ location ∉ changed, other.lookup location = files.lookup location
  blocks : ∀ location ∈ changed, files.Blocks location

theorem Blocks.ne_nil (h : files.Blocks location) : location ≠ [] := by
  rintro rfl
  exact h.directory rfl

theorem blocks_of_file {content : List UInt8} (h : files.lookup location = some (.file content)) :
    files.Blocks location :=
  ⟨by simp [h], by simp [h]⟩

namespace Differs

theorem refl (h : files.Blocks location) : files.Differs files [location] :=
  ⟨rfl, fun _ _ ↦ rfl, by simpa using h⟩

/-- A file that is put where every path ends changes nothing but that. -/
theorem put (h : files.Blocks location) (content : List UInt8) :
    files.Differs (files.put location (.file content)) [location] ∧
      (files.put location (.file content)).Differs files [location] := by
  have hput := lookup_put files h.ne_nil (.file content)
  have hsame (l : Location) (hl : l ∉ [location]) :
      (files.put location (.file content)).lookup l = files.lookup l := by
    rw [hput, if_neg (by simpa using hl)]
  have hblocks : (files.put location (.file content)).Blocks location :=
    blocks_of_file (by rw [hput, if_pos rfl])
  exact ⟨⟨rfl, hsame, by simpa using h⟩, ⟨rfl, fun l hl ↦ (hsame l hl).symm, by simpa using hblocks⟩⟩

theorem guides (h : files.Differs other changed) : files.Guides other := by
  refine ⟨fun location hl ↦ ?_, fun location target hl ↦ ?_⟩
  · rw [h.lookup location fun hc ↦ (h.blocks location hc).directory hl, hl]
  · rw [h.lookup location fun hc ↦ (h.blocks location hc).link target hl, hl]

/-! ## Paths that end elsewhere -/

theorem stride_elsewhere (h : files.Differs other changed) (hplace : place.IsOff changed)
    (hs : files.stride purpose here name rest = .stop (.arrived place)) :
    other.stride purpose here name rest = .stop (.arrived place) := by
  cases place with
  | found location node =>
    rw [stride_eq_found_iff] at hs ⊢
    obtain ⟨he, hl, rfl, hr⟩ := hs
    refine ⟨he, (h.lookup _ fun hc ↦ ?_).trans hl, rfl, hr⟩
    rw [hplace hc] at hl
    exact (h.blocks _ hc).directory hl
  | vacant location slash =>
    rw [stride_eq_vacant_iff] at hs ⊢
    obtain ⟨he, hl, rfl, hr⟩ := hs
    exact ⟨he, (h.lookup _ hplace).trans hl, rfl, hr⟩

theorem advance_elsewhere (h : files.Differs other changed) (hplace : place.IsOff changed)
    (ha : files.advance purpose here names = .arrived place) :
    other.advance purpose here names = .arrived place := by
  induction names generalizing here with
  | nil => exact ha
  | cons name names ih =>
    cases hs : files.stride purpose here name names with
    | on next =>
      rw [advance_cons_of_on hs] at ha
      rw [advance_cons_of_on (h.guides.stride_on (.inl rfl) hs)]
      exact ih ha
    | stop passage =>
      rw [advance_cons_of_stop hs] at ha
      subst ha
      exact advance_cons_of_stop (h.stride_elsewhere hplace hs)

theorem resolveFrom_elsewhere {links : Nat} (h : files.Differs other changed)
    (hplace : place.IsOff changed)
    (hf : files.resolveFrom purpose links here names = .ok place) :
    other.resolveFrom purpose links here names = .ok place := by
  fun_induction FileSystem.resolveFrom files purpose links here names with
  | case1 links here names place ha =>
    cases hf
    exact resolveFrom_of_arrived (h.advance_elsewhere hplace ha)
  | case2 | case3 | case4 => cases hf
  | case5 here names there target rest ha links ht ih =>
    rw [resolveFrom_succ_of_link (h.guides.advance_link (.inl rfl) ha), if_neg ht]
    exact ih hf

/-- A path that ends at no changed location ends as it did. -/
theorem resolve_elsewhere (h : files.Differs other changed) (hplace : place.IsOff changed)
    (hf : files.resolve purpose path = .ok place) : other.resolve purpose path = .ok place := by
  unfold resolve at hf ⊢
  grind [h.workingDirectory, h.resolveFrom_elsewhere hplace]

end Differs

/-! ## Paths that end at a changed location -/

/-- A link that is followed for the sake of an entry has names behind it, the last ones of the
path. -/
theorem advance_link_names {there : Location} {target : Path}
    (ha : files.advance .entry here names = .link there target rest) :
    rest ≠ [] ∧ rest <:+ names := by
  induction names generalizing here with
  | nil => cases ha
  | cons name names ih =>
    cases hs : files.stride .entry here name names with
    | on next =>
      rw [advance_cons_of_on hs] at ha
      exact (ih ha).imp_right (·.trans (List.suffix_cons name names))
    | stop passage =>
      rw [advance_cons_of_stop hs] at ha
      subst ha
      obtain ⟨-, -, -, rfl, hr⟩ := stride_eq_link_iff.mp hs
      refine ⟨?_, List.suffix_cons name rest⟩
      rintro rfl
      exact hr ⟨rfl, rfl⟩

section

variable {later : Purpose} {node? : Option Node} (hp : Suits .entry later)
  (hnode : node? ≠ some .directory)
  (hother : later = .entry ∨ ∀ target, other.lookup location ≠ some (.link target))
include hp hother

theorem stride_end (hnames : node? = none ∨ ¬ Path.Slashed (name :: rest))
    (hs : files.stride .entry here name rest = .stop (.arrived (.ofNode location node?))) :
    other.stride later here name rest =
      .stop (.arrived (.ofNode location (other.lookup location))) := by
  have hend : Enters .entry name rest ∧ location = here ++ [name] ∧ rest = [] := by
    cases node? with
    | none =>
      obtain ⟨he, -, hl, -, hslash⟩ := stride_eq_vacant_iff.mp hs
      exact ⟨he, hl, by simpa using hslash⟩
    | some node =>
      obtain ⟨he, -, hl, hr⟩ := stride_eq_found_iff.mp hs
      refine ⟨he, hl, ?_⟩
      by_contra hne
      refine hnames.elim nofun (· ((Path.slashed_cons hne).mpr ?_))
      exact Path.slashed_of_all_isEmpty (hr.elim (absurd ·.1 hne) (·.1)) hne
  obtain ⟨he, rfl, rfl⟩ := hend
  cases hl : other.lookup (here ++ [name]) with
  | none => exact stride_eq_vacant_iff.mpr ⟨he.suits hp, hl, rfl, rfl, rfl⟩
  | some node =>
    refine stride_eq_found_iff.mpr ⟨he.suits hp, hl, rfl, .inl ⟨rfl, ?_⟩⟩
    rintro target rfl
    exact hother.elim id fun hne ↦ absurd hl (hne target)

variable (h : files.Guides other)
include hnode h

theorem advance_end (hnames : node? = none ∨ ¬ Path.Slashed names)
    (ha : files.advance .entry here names = .arrived (.ofNode location node?)) :
    other.advance later here names = .arrived (.ofNode location (other.lookup location)) := by
  induction names generalizing here with
  | nil =>
    cases node? with
    | none => cases ha
    | some node =>
      cases ha
      exact absurd rfl hnode
  | cons name names ih =>
    cases hs : files.stride .entry here name names with
    | on next =>
      rw [advance_cons_of_on hs] at ha
      rw [advance_cons_of_on (h.stride_on hp hs)]
      exact ih (hnames.imp_right Path.not_slashed_tail) ha
    | stop passage =>
      rw [advance_cons_of_stop hs] at ha
      subst ha
      exact advance_cons_of_stop (stride_end hp hother hnames hs)

theorem resolveFrom_end {links : Nat} (hnames : node? = none ∨ ¬ Path.Slashed names)
    (hf : files.resolveFrom .entry links here names = .ok (.ofNode location node?)) :
    other.resolveFrom later links here names =
      .ok (.ofNode location (other.lookup location)) := by
  fun_induction FileSystem.resolveFrom files .entry links here names with
  | case1 links here names place ha =>
    cases hf
    exact resolveFrom_of_arrived (advance_end hp hnode hother h hnames ha)
  | case2 | case3 | case4 => cases hf
  | case5 here names there target rest ha links ht ih =>
    rw [resolveFrom_succ_of_link (h.advance_link hp ha), if_neg ht]
    obtain ⟨hr, front, rfl⟩ := advance_link_names ha
    refine ih (hnames.imp_right fun hslashed htarget ↦ hslashed (Path.slashed_append front ?_)) hf
    exact Path.slashed_of_append hr htarget

/-- A path whose last name has no slash behind it ends at the same location as before, whatever
stands there now. -/
theorem resolve_end (hw : other.workingDirectory = files.workingDirectory)
    (hnames : node? = none ∨ path.getLast? ≠ some '/')
    (hf : files.resolve .entry path = .ok (.ofNode location node?)) :
    other.resolve later path = .ok (.ofNode location (other.lookup location)) := by
  have hslashed : node? = none ∨ ¬ Path.Slashed (Path.names path) := by
    exact hnames.imp_right Path.not_slashed_names
  unfold resolve at hf ⊢
  grind [resolveFrom_end]

end

/-! ## Entries

The entry of a path that leads somewhere is what it leads to, or a link. -/

/-- A path names a link and goes through that very link: without the link it does not come to the
same name. -/
def LeadsThroughItself (files : FileSystem) (path : Path) : Prop :=
  ∃ location target, files.resolve .entry path = .ok (.found location (.link target)) ∧
    (files.erase location).resolve .entry path ≠ .ok (.vacant location false)

/-- A node, no directory and no link, has left one location for another, and nothing else is
changed. -/
structure Moves (files later : FileSystem) (source target : Location) (node : Node) : Prop where
  workingDirectory : later.workingDirectory = files.workingDirectory
  arrives : later.lookup target = some node
  leaves : later.lookup source = none
  others : ∀ location, location ≠ source → location ≠ target →
    later.lookup location = files.lookup location
  blocksSource : files.Blocks source
  blocksTarget : later.Blocks target

namespace Moves

variable {source target : Location} {old? : Option Node}

theorem differs (h : files.Moves later source target node) :
    later.Differs files [source, target] := by
  refine ⟨h.workingDirectory.symm, fun location hl ↦ ?_, ?_⟩
  · simp only [List.mem_cons, List.not_mem_nil, or_false, not_or] at hl
    exact (h.others location hl.1 hl.2).symm
  · simp only [List.forall_mem_cons]
    exact ⟨⟨by simp [h.leaves], by simp [h.leaves]⟩, h.blocksTarget, nofun⟩

/-- Without what the node took the place of, the directories and links are those of before. -/
theorem lookup_iff (h : files.Moves later source target node) {guide : Node}
    (hguide : guide = .directory ∨ ∃ aim, guide = .link aim) (location : Location) :
    (files.erase target).lookup location = some guide ↔ later.lookup location = some guide := by
  rw [lookup_erase files h.blocksTarget.ne_nil]
  by_cases ht : location = target
  · subst ht
    rw [if_pos rfl]
    refine iff_of_false nofun ?_
    rcases hguide with rfl | ⟨aim, rfl⟩
    · exact h.blocksTarget.directory
    · exact h.blocksTarget.link aim
  rw [if_neg ht]
  by_cases hs : location = source
  · subst hs
    rw [h.leaves]
    refine iff_of_false ?_ nofun
    rcases hguide with rfl | ⟨aim, rfl⟩
    · exact h.blocksSource.directory
    · exact h.blocksSource.link aim
  · rw [h.others location hs ht]

theorem guides (h : files.Moves later source target node) : (files.erase target).Guides later :=
  ⟨fun location ↦ (h.lookup_iff (.inl rfl) location).mp,
    fun location aim ↦ (h.lookup_iff (.inr ⟨aim, rfl⟩) location).mp⟩

theorem guides_symm (h : files.Moves later source target node) :
    later.Guides (files.erase target) :=
  ⟨fun location ↦ (h.lookup_iff (.inl rfl) location).mpr,
    fun location aim ↦ (h.lookup_iff (.inr ⟨aim, rfl⟩) location).mpr⟩

theorem lookup_of_end (hold : old? ≠ some .directory)
    (hr : files.resolve .entry path = .ok (.ofNode target old?)) : files.lookup target = old? := by
  have hs := resolve_stands hr
  cases old? with
  | none => exact hs
  | some old => exact hs.resolve_left fun hd ↦ hold (congrArg some hd)

/-- A path that does not lead through itself comes to its end also when nothing is there. -/
theorem resolve_erase (h : files.Moves later source target node) (hold : old? ≠ some .directory)
    (hslash : old? = none ∨ path.getLast? ≠ '/')
    (hr : files.resolve .entry path = .ok (.ofNode target old?))
    (hthrough : ¬ files.LeadsThroughItself path) :
    (files.erase target).resolve .entry path = .ok (.vacant target false) := by
  have herase := lookup_erase files h.blocksTarget.ne_nil
  by_cases hlink : ∃ aim, old? = some (.link aim)
  · obtain ⟨aim, rfl⟩ := hlink
    by_contra hne
    exact hthrough ⟨target, aim, hr, hne⟩
  · have hlookup := lookup_of_end hold hr
    have hguides : files.Guides (files.erase target) := by
      refine ⟨fun location hl ↦ ?_, fun location aim hl ↦ ?_⟩
      · rwa [herase, if_neg]
        rintro rfl
        exact hold (hlookup.symm.trans hl)
      · rwa [herase, if_neg]
        rintro rfl
        exact hlink ⟨aim, hlookup.symm.trans hl⟩
    have hend := resolve_end (.inl rfl) hold (.inl rfl) hguides rfl hslash hr
    rwa [herase, if_pos rfl] at hend

/-- The path whose end was replaced leads to what was moved there, if it does not lead through
itself. -/
theorem locate (h : files.Moves later source target node) (hold : old? ≠ some .directory)
    (hslash : old? = none ∨ path.getLast? ≠ '/')
    (hr : files.resolve .entry path = .ok (.ofNode target old?))
    (hthrough : ¬ files.LeadsThroughItself path) : later.locate path = .ok (target, node) := by
  have herase : (files.erase target).resolve .entry path = .ok (.ofNode target none) :=
    h.resolve_erase hold hslash hr hthrough
  have hnothing : (none : Option Node) ≠ some .directory := nofun
  have hend := resolve_end (.inr ⟨rfl, rfl⟩) hnothing (.inr h.blocksTarget.link) h.guides
    h.workingDirectory (.inl rfl) herase
  rw [h.arrives] at hend
  exact locate_eq_ok_iff.mpr hend

/-- A path that leads through itself leads nowhere once its end was replaced. -/
theorem contains (h : files.Moves later source target node) (hslash : path.getLast? ≠ '/')
    {aim : Path} (hr : files.resolve .entry path = .ok (.found target (.link aim)))
    (hthrough : files.LeadsThroughItself path) : later.contains path = false := by
  rw [Bool.eq_false_iff]
  intro hcontains
  obtain ⟨other, hother⟩ := contains_eq_true_iff.mp hcontains
  obtain ⟨reached, hreached⟩ := canonical_eq_ok_iff.mp hother
  obtain ⟨location, found, hentry⟩ : ∃ location found,
      later.resolve .entry path = .ok (.ofNode location (some found)) := by
    rcases later.resolve_entry path with he | he
    · exact ⟨other, reached, he.trans (locate_eq_ok_iff.mp hreached)⟩
    · exact he
  -- elsewhere the path would have come to the same end before
  have helsewhere (hoff : Place.IsOff [source, target] (.found location found)) :
      location = target ∧ found = .link aim := by
    have hsame := h.differs.resolve_elsewhere hoff hentry
    rw [hr] at hsame
    cases hsame
    exact ⟨rfl, rfl⟩
  by_cases hd : found = .directory
  · have hsame := helsewhere fun _ ↦ hd
    rw [hd] at hsame
    cases hsame.2
  have hfound : later.lookup location = some found :=
    lookup_of_end (by simpa using hd) hentry
  by_cases ht : location = target
  · subst ht
    obtain ⟨through, _, hlink, herase⟩ := hthrough
    rw [hr] at hlink
    cases hlink
    have hend := resolve_end (.inl rfl) (by simpa using hd) (.inl rfl) h.guides_symm
      h.workingDirectory.symm (.inr hslash) hentry
    rw [lookup_erase files h.blocksTarget.ne_nil, if_pos rfl] at hend
    exact herase hend
  · refine ht (helsewhere fun hmem ↦ ?_).1
    simp only [List.mem_cons, List.not_mem_nil, or_false] at hmem
    rw [hmem.resolve_right ht, h.leaves] at hfound
    cases hfound

end Moves

end FileSystem

end CodeRepair
