import CodeRepair.Proofs.FileSystem.Directory

/-!
# Paths that lead somewhere late

A path may lead nowhere until the directories that are missing in front of its last name are made,
and to a file that was there all the time afterwards: `missing/../file` does.  In a tree it takes a
`..` to get there, for below a new directory there is nothing but new directories.
-/

namespace CodeRepair

/-- A passage that comes to no link and finds nothing but what is at a location or below it. -/
def Passage.StaysBelow (top : Location) : Passage → Prop
  | .arrived (.found location _) => top <+: location
  | .link .. => False
  | _ => True

namespace FileSystem

variable {files later made : FileSystem} {here location top : Location} {node : Node}
  {names : List Text} {path : Path}

/-- The path leads nowhere, and to the file at a location once the missing directories in front of
its last name are made. -/
def LeadsLate (files : FileSystem) (path : Path) (location : Location) : Prop :=
  files.contains path = false ∧
    ∃ made content, files.makeDirectories ((path.parent?).getD []) = (none, made) ∧
      made.locate path = .ok (location, .file content)

theorem LeadsLate.of_locate {content : List UInt8} (hc : files.canonical path ≠ .ok location)
    (hm : files.makeDirectories ((path.parent?).getD []) = (none, made))
    (h : made.locate path = .ok (location, .file content)) : files.LeadsLate path location := by
  refine ⟨?_, made, content, hm, h⟩
  rw [Bool.eq_false_iff]
  intro hcontains
  obtain ⟨other, hother⟩ := contains_eq_true_iff.mp hcontains
  have hwidens := files.makeDirectories_widens ((path.parent?).getD [])
  rw [hm] at hwidens
  have hlater := hwidens.keeps.canonical hother
  rw [canonical_eq_ok_iff.mpr ⟨_, h⟩, Except.ok.injEq] at hlater
  exact hc (hlater ▸ hother)

/-- Whatever stands in a file system stands in a directory. -/
def IsTree (files : FileSystem) : Prop :=
  ∀ location name node, files.lookup (location ++ [name]) = some node →
    files.lookup location = some .directory

/-- There is nothing below a location where nothing stands. -/
theorem IsTree.lookup_append (h : files.IsTree) (hl : files.lookup top = none)
    (below : List Text) : files.lookup (top ++ below) = none := by
  induction below using List.reverseRecOn with
  | nil => rwa [List.append_nil]
  | append_singleton below name ih =>
    rw [← List.append_assoc]
    cases hn : files.lookup (top ++ below ++ [name]) with
    | none => rfl
    | some node =>
      rw [h _ _ _ hn] at ih
      cases ih

/-- There is nothing but directories from a location on. -/
def IsBare (files : FileSystem) (top : Location) : Prop :=
  ∀ below node, files.lookup (top ++ below) = some node → node = .directory

theorem IsTree.isBare (h : files.IsTree) (hl : files.lookup top = none) (hw : files.Widens later) :
    later.IsBare top := by
  intro below node hn
  rcases hw.lookup (top ++ below) with he | ⟨-, hd⟩
  · rw [he, h.lookup_append hl] at hn
    cases hn
  · rw [hd, Option.some.injEq] at hn
    exact hn.symm

theorem stride_staysBelow {name : Text} {rest : List Text} {passage : Passage}
    (hb : files.IsBare top) (hh : top <+: here)
    (h : files.stride .content here name rest = .stop passage) : passage.StaysBelow top := by
  match passage, h with
  | .arrived (.found location node), h =>
    obtain ⟨-, -, rfl, -⟩ := stride_eq_found_iff.mp h
    exact hh.trans (List.prefix_append here [name])
  | .link there target names, h =>
    obtain ⟨-, hl, -⟩ := stride_eq_link_iff.mp h
    obtain ⟨below, rfl⟩ := hh
    cases hb (below ++ [name]) _ (List.append_assoc .. ▸ hl)
  | .arrived (.vacant ..), _ | .fault _, _ => trivial

theorem advance_staysBelow (hb : files.IsBare top) (hh : top <+: here)
    (hn : ['.', '.'] ∉ names) : (files.advance .content here names).StaysBelow top := by
  induction names generalizing here with
  | nil => exact hh
  | cons name rest ih =>
    rw [List.mem_cons, not_or] at hn
    cases hs : files.stride .content here name rest with
    | on next =>
      rw [advance_cons_of_on hs]
      refine ih ?_ hn.2
      rcases stride_eq_on_iff.mp hs with ⟨-, rfl⟩ | ⟨rfl, -⟩ | ⟨-, -, -, rfl⟩
      · exact hh
      · exact absurd rfl hn.1
      · exact hh.trans (List.prefix_append here [name])
    | stop passage =>
      rw [advance_cons_of_stop hs]
      exact stride_staysBelow hb hh hs

theorem resolveFrom_staysBelow {links : Nat} (hb : files.IsBare top) (hn : ['.', '.'] ∉ names)
    (h : files.resolveFrom .content links top names = .ok (.found location node)) :
    top <+: location := by
  have ha := advance_staysBelow hb List.prefix_rfl hn
  unfold resolveFrom at h
  cases hp : files.advance .content top names with
  | arrived place =>
    rw [hp] at h ha
    cases h
    exact ha
  | fault fault =>
    rw [hp] at h
    cases h
  | link there target rest =>
    rw [hp] at ha
    exact ha.elim

/-- A path that goes through the missing end of another one is followed from there once a directory
is made. -/
theorem resolveFrom_new {first : Path} {slash : Bool} (ht : Path.Through first path)
    (hw : files.Widens made) (hv : files.resolve .entry first = .ok (.vacant top slash))
    (hd : made.lookup top = some .directory)
    (h : made.resolve .content path = .ok (.found location node)) :
    ∃ left rest, Path.names first ++ rest = Path.names path ∧
      made.resolveFrom .content left top rest = .ok (.found location node) := by
  have hcontent : files.resolve .content first = .ok (.vacant top slash) := by
    rcases files.resolve_entry first with he | ⟨other, node', he⟩
    · rw [← he, hv]
    · rw [hv] at he
      cases he
  have hfound := hw.keeps.resolveFrom_vacant hd (resolveFrom_of_resolve hcontent)
  obtain ⟨left, happend⟩ := resolveFrom_append hfound
  obtain ⟨rest, hrest⟩ := ht.names
  refine ⟨left, rest, hrest, ?_⟩
  rw [← happend rest, hrest, ht.beginsAtRoot, ← hw.workingDirectory]
  exact resolveFrom_of_resolve h

theorem LeadsLate.changes (h : files.LeadsLate path location) :
    ∃ parent made content, path.parent? = some parent ∧ parent ≠ [] ∧
      files.makeDirectories parent = (none, made) ∧ made ≠ files ∧
        made.locate path = .ok (location, .file content) := by
  obtain ⟨hnowhere, made, content, hm, hf⟩ := h
  have hchanged : made ≠ files := by
    rintro rfl
    rw [contains_eq_true_iff.mpr ⟨location, canonical_eq_ok_iff.mpr ⟨_, hf⟩⟩] at hnowhere
    cases hnowhere
  cases hp : path.parent? with
  | none =>
    rw [hp] at hm
    cases hm
    exact absurd rfl hchanged
  | some parent =>
    rw [hp] at hm
    refine ⟨parent, made, content, rfl, ?_, hm, hchanged, hf⟩
    rintro rfl
    cases hm
    exact hchanged rfl

/-- Without `..` in it, no path leads to something old late: where the first directory was missing,
there are only new directories behind it. -/
theorem IsTree.not_leadsLate (h : files.IsTree) (hn : ['.', '.'] ∉ Path.names path)
    (hf : files.lookup location = some node) :
    ¬ files.LeadsLate path location := by
  intro hlate
  obtain ⟨parent, made, content, hp, hne, hm, hchanged, hlocate⟩ := hlate.changes
  obtain ⟨first, top, slash, hthrough, hvacant, hput⟩ := makeDirectories_first hm hchanged
  have hw := files.makeDirectories_widens parent
  rw [hm] at hw
  have hnone : files.lookup top = none := resolve_stands hvacant
  have htop : top ≠ [] := by
    rintro rfl
    cases hnone
  have hd : made.lookup top = some .directory := by
    apply hput.keeps.lookup_directory
    rw [lookup_put files htop, if_pos rfl]
  obtain ⟨left, rest, hrest, hr⟩ := resolveFrom_new (hthrough.trans (Path.through_parent hp hne))
    hw hvacant hd (locate_eq_ok_iff.mp hlocate)
  obtain ⟨below, rfl⟩ := resolveFrom_staysBelow (h.isBare hnone hw)
    (fun hmem ↦ hn (hrest ▸ List.mem_append_right _ hmem)) hr
  rw [h.lookup_append hnone] at hf
  cases hf

end FileSystem

end CodeRepair
