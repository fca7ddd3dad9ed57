import CodeRepair.Document.Fixed
import CodeRepair.Proofs.FileSystem.Late

/-!
# The source of a fixed document

A fixed document is refused when its output path names the source document.  The path is looked at
before missing directories are made, so what it says then is not all that it can come to mean: a
path that leads to the source only after the directories are made is not refused, and the source is
overwritten.  That is the only way to lose the source, and without `..` in the path there is none.
-/

namespace CodeRepair.FixedDocument

variable {files : FileSystem} {source : DocumentId} {path : Path} {location : Location}

/-- The output path of a source is refused before anything is made. -/
theorem write_of_namesSource (text : Text) (h : namesSource files source path = true) :
    (write files source (some path) text).2 = files := by
  simp [write, h]

theorem namesSource_of_canonical (hs : files.canonical source.path = .ok location)
    (hp : files.canonical path = .ok location) : namesSource files source path = true := by
  simp [namesSource, target?, hs, hp, Path.same]

/-- A path that leads nowhere, in a directory that is not there, names no source. -/
theorem namesSource_of_parent {parent : Path} (hs : files.canonical source.path = .ok location)
    (hp : files.contains path = false) (hparent : path.parent? = some parent)
    (hne : parent ≠ []) (hc : files.contains parent = false) :
    namesSource files source path = false := by
  obtain ⟨fault, hfault⟩ := FileSystem.contains_eq_false_iff.mp hp
  obtain ⟨fault', hfault'⟩ := FileSystem.contains_eq_false_iff.mp hc
  have htarget : target? files path = none := by
    have hempty : parent.isEmpty = false := by simpa using hne
    simp only [target?, hfault, hparent, Option.getD_some, hempty, Bool.false_eq_true, if_false,
      hfault']
    cases path.fileName? <;> rfl
  rw [namesSource, hs, htarget]
  rfl

/-- A path that leads to the source late is not refused. -/
theorem namesSource_of_leadsLate (hs : files.canonical source.path = .ok location)
    (h : files.LeadsLate path location) : namesSource files source path = false := by
  obtain ⟨parent, made, content, hp, hne, hm, hchanged, -⟩ := h.changes
  refine namesSource_of_parent hs h.1 hp hne ?_
  rw [Bool.eq_false_iff]
  intro hc
  have hsame := FileSystem.makeDirectories_of_contains hc
  rw [hm] at hsame
  exact hchanged hsame

/-- What a fixed document that is not refused does to the files: the missing directories are made,
and then the file is written if both succeed. -/
theorem write_effect (text : Text) (hn : namesSource files source path = false) :
    ∃ fault? made, files.makeDirectories ((path.parent?).getD []) = (fault?, made) ∧
      ((write files source (some path) text).2 = made ∨
        fault? = none ∧ made.write path (Text.encode (payload text)) =
          .ok (write files source (some path) text).2) := by
  obtain ⟨fault?, made, hm⟩ : ∃ fault? made,
      files.makeDirectories ((path.parent?).getD []) = (fault?, made) := ⟨_, _, rfl⟩
  refine ⟨fault?, made, hm, ?_⟩
  cases fault? with
  | some fault => simp [write, hn, hm]
  | none => cases hw : made.write path (Text.encode (payload text)) <;> simp [write, hn, hm, hw]

/-- A source that the output path leads to late is overwritten. -/
theorem read_source_of_leadsLate {content : List UInt8} (text : Text)
    (hs : files.locate source.path = .ok (location, .file content))
    (h : files.LeadsLate path location) :
    (write files source (some path) text).2.read source.path =
      .ok (Text.encode (payload text)) := by
  have hn := namesSource_of_leadsLate (FileSystem.canonical_eq_ok_iff.mpr ⟨_, hs⟩) h
  obtain ⟨-, made, old, hm, hlocate⟩ := h
  have hwidens := files.makeDirectories_widens ((path.parent?).getD [])
  rw [hm] at hwidens
  have hwrite : made.write path (Text.encode (payload text)) =
      .ok (made.put location (.file (Text.encode (payload text)))) :=
    FileSystem.write_of_locate_file hlocate
  have hresult : (write files source (some path) text).2 =
      made.put location (.file (Text.encode (payload text))) := by
    simp [write, hn, hm, hwrite]
  have hne := FileSystem.ne_nil_of_lookup_file (FileSystem.lookup_of_locate_file hlocate)
  rw [hresult]
  refine FileSystem.read_of_locate_file
    ((hwidens.keeps.trans (FileSystem.write_keeps hwrite)).locate_file hs ?_)
  rw [FileSystem.lookup_put made hne, if_pos rfl]

/-- A source that the output path does not lead to late is unchanged. -/
theorem read_source_of_not_leadsLate {content : List UInt8} (text : Text)
    (hs : files.locate source.path = .ok (location, .file content))
    (h : ¬ files.LeadsLate path location) :
    (write files source (some path) text).2.read source.path = .ok content := by
  by_cases hn : namesSource files source path = true
  · rw [write_of_namesSource text hn]
    exact FileSystem.read_of_locate_file hs
  rw [Bool.not_eq_true] at hn
  have hcanonical : files.canonical path ≠ .ok location := by
    intro hp
    rw [namesSource_of_canonical (FileSystem.canonical_eq_ok_iff.mpr ⟨_, hs⟩) hp] at hn
    cases hn
  obtain ⟨fault?, made, hm, heffect⟩ := write_effect text hn
  have hwidens := files.makeDirectories_widens ((path.parent?).getD [])
  rw [hm] at hwidens
  have hmade := hwidens.lookup_some (FileSystem.lookup_of_locate_file hs)
  rcases heffect with hresult | ⟨rfl, hw⟩
  · rw [hresult]
    exact FileSystem.read_of_locate_file (hwidens.keeps.locate_file hs hmade)
  · have hlocate : ∀ old, made.locate path ≠ .ok (location, .file old) :=
      fun old hold ↦ h (.of_locate hcanonical hm hold)
    have hkeeps := hwidens.keeps.trans (FileSystem.write_keeps hw)
    exact FileSystem.read_of_locate_file
      (hkeeps.locate_file hs (FileSystem.lookup_write_of_ne hw hmade hlocate))

/-- The source holds what it held before exactly when the output path does not lead to it late, or
when that is the new text already.  In a tree, no path without `..` leads to it late. -/
theorem source_unchanged_iff {content : List UInt8} (output : Option Path) (text : Text)
    (h : files.locate source.path = .ok (location, .file content)) :
    ((write files source output text).2.read source.path = .ok content ↔
        Text.encode (payload text) = content ∨
          ∀ path, output = some path → ¬ files.LeadsLate path location) ∧
      (files.IsTree → (∀ path, output = some path → ['.', '.'] ∉ Path.names path) →
        (write files source output text).2.read source.path = .ok content) := by
  cases output with
  | none =>
    have hread : (write files source none text).2.read source.path = .ok content :=
      FileSystem.read_of_locate_file h
    exact ⟨iff_of_true hread (.inr fun path hp ↦ by cases hp), fun _ _ ↦ hread⟩
  | some path =>
    refine ⟨?_, fun htree hnames ↦ read_source_of_not_leadsLate text h
      (htree.not_leadsLate (hnames path rfl) (FileSystem.lookup_of_locate_file h))⟩
    by_cases hlate : files.LeadsLate path location
    · rw [read_source_of_leadsLate text h hlate, Except.ok.injEq]
      exact ⟨.inl, fun hor ↦ hor.elim id fun hn ↦ absurd hlate (hn path rfl)⟩
    · refine iff_of_true (read_source_of_not_leadsLate text h hlate) (.inr ?_)
      intro other ho
      cases ho
      exact hlate

/-- A tree with a single document. -/
def single : FileSystem :=
  { nodes := [(["mod.py".toList], .file (Text.encode "original\n".toList))] }

theorem single_isTree : single.IsTree := by
  intro location name node h
  cases location with
  | nil => rfl
  | cons first rest => simp [single, FileSystem.lookup] at h

/-- A file beside the source, in a new directory, leaves the source as it is. -/
theorem source_unchanged_beside :
    single.locate (DocumentId.mk "/mod.py".toList).path =
        .ok (["mod.py".toList], .file (Text.encode "original\n".toList)) ∧
      (write single ⟨"/mod.py".toList⟩ (some "out/mod.fixed.py".toList) "x = 1".toList).2.read
        "/mod.py".toList = .ok (Text.encode "original\n".toList) := by
  have h : single.locate (DocumentId.mk "/mod.py".toList).path =
      .ok (["mod.py".toList], .file (Text.encode "original\n".toList)) := by decide
  have hnames : ∀ path, some "out/mod.fixed.py".toList = some path →
      ['.', '.'] ∉ Path.names path := by
    intro path hp
    cases hp
    decide
  exact ⟨h, (source_unchanged_iff _ _ h).2 single_isTree hnames⟩

/-- The source is overwritten through a directory that is missing. -/
theorem source_overwritten :
    single.read "/mod.py".toList = .ok (Text.encode "original\n".toList) ∧
      (write single ⟨"/mod.py".toList⟩ (some "nodir/../mod.py".toList) "fixed".toList).2.read
        "/mod.py".toList = .ok (Text.encode "fixed\n".toList) := by
  decide

end CodeRepair.FixedDocument
