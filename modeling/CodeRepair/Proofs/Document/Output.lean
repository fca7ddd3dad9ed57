import CodeRepair.Proofs.Document.Fixed
import CodeRepair.Proofs.FileSystem.Ordinary
import CodeRepair.Proofs.Text.Encoding

/-!
# The output of a fixed document

Where the output path is taken, it leads to the text afterwards and nothing else is changed but for new
directories.  Where it is refused, nothing is changed at all, and the path names the source, or nothing could
have been written to it.
-/

namespace CodeRepair.FixedDocument

variable {files later : FileSystem} {source : DocumentId} {path : Path} {text shown : Text}

/-- What is said of an output path that names the source. -/
def refusal (path : Path) : Failure :=
  ["refusing to overwrite the source document ".toList ++ path]

/-- Write a fixed document to a path, whatever it names. -/
def handOver (files : FileSystem) (path : Path) (text : Text) : Outcome × FileSystem :=
  let parent := (path.parent?).getD []
  match files.makeDirectories parent with
  | (some fault, files) => (.error ["create output dir ".toList ++ parent, fault.message], files)
  | (none, files) =>
    match files.write path (Text.encode (payload text)) with
    | .ok files => (.ok [], files)
    | .error fault => (.error ["write ".toList ++ path, fault.message], files)

theorem write_some (files : FileSystem) (source : DocumentId) (path : Path) (text : Text) :
    write files source (some path) text =
      if namesSource files source path then (.error (refusal path), files)
      else handOver files path text :=
  rfl

/-- Handing over says where it failed and why, a refusal only that it is one. -/
theorem handOver_ne_refusal : (handOver files path text).1 ≠ .error (refusal path) := by
  unfold handOver refusal
  intro h
  simp only at h
  split at h
  · cases h
  · split at h <;> cases h

theorem handOver_eq_ok (h : handOver files path text = (.ok shown, later)) :
    ∃ made, files.makeDirectories ((path.parent?).getD []) = (none, made) ∧
      made.write path (Text.encode (payload text)) = .ok later := by
  unfold handOver at h
  simp only at h
  split at h
  · cases h
  · next made hmade =>
    split at h
    · next written hwritten =>
      cases h
      exact ⟨made, hmade, hwritten⟩
    · cases h

/-- What cannot be written is not handed over. -/
theorem exists_failure_of_write {made : FileSystem} {fault : FileFault}
    (hmade : (files.makeDirectories ((path.parent?).getD [])).2 = made)
    (hwrite : made.write path (Text.encode (payload text)) = .error fault) :
    ∃ failure, (handOver files path text).1 = .error failure := by
  cases hresult : (handOver files path text).1 with
  | error failure => exact ⟨failure, rfl⟩
  | ok shown =>
    obtain ⟨other, hother, hwritten⟩ := handOver_eq_ok (Prod.ext hresult rfl)
    rw [hother] at hmade
    cases hmade
    rw [hwrite] at hwritten
    cases hwritten

/-! ## What is refused -/

/-- A path and the source are one: both lead to the same location, or the source leads nowhere and is known by
the identity of the path. -/
def IsSource (files : FileSystem) (source : DocumentId) (path : Path) : Prop :=
  (∃ location, files.canonical source.path = .ok location ∧ files.canonical path = .ok location) ∨
  (∃ fault, files.canonical source.path = .error fault) ∧ (files.documentId path).same source = true

theorem names_of_canonical {location : Location} (h : files.IsOrdinary)
    (hc : files.canonical path = .ok location) : ∀ name ∈ location, Path.IsName name := by
  obtain ⟨node, hnode⟩ := FileSystem.canonical_eq_ok_iff.mp hc
  exact h.names location node (h.lookup_of_locate hnode)

theorem target?_eq_some (hp : files.contains path = false) {target : Path}
    (h : target? files path = some target) :
    ∃ name here, path.fileName? = some name ∧
      files.canonical (FileSystem.directoryOf ((path.parent?).getD [])) = .ok here ∧
        target = Path.append here.path name := by
  obtain ⟨fault, hfault⟩ := FileSystem.contains_eq_false_iff.mp hp
  simp only [target?, hfault] at h
  cases hname : path.fileName? with
  | none =>
    rw [hname] at h
    cases h
  | some name =>
    simp only [hname] at h
    split at h
    · next here hhere => exact ⟨name, here, rfl, hhere, (Option.some.inj h).symm⟩
    · cases h

/-- An output path that names the source is the source, or it leads nowhere and nothing can be written there. -/
theorem isSource_of_namesSource (h : files.IsOrdinary)
    (hn : namesSource files source path = true) (text : Text) :
    IsSource files source path ∨ ∃ failure, (handOver files path text).1 = .error failure := by
  unfold namesSource at hn
  cases hs : files.canonical source.path with
  | error fault =>
    rw [hs] at hn
    exact .inl (.inr ⟨⟨fault, hs⟩, hn⟩)
  | ok location =>
    rw [hs] at hn
    have hlocation := names_of_canonical h hs
    cases hp : files.canonical path with
    | ok other =>
      have hsame : other.path.same location.path = true := by simpa [target?, hp] using hn
      have hother := Location.eq_of_same (names_of_canonical h hp) hlocation hsame
      exact .inl (.inl ⟨location, hs, hother ▸ hp⟩)
    | error fault =>
      -- the path stands for a name in a directory, and that name is the source
      right
      obtain ⟨target, htarget, hsame⟩ : ∃ target, target? files path = some target ∧
          target.same location.path = true := by
        cases htarget : target? files path with
        | none => simp [htarget] at hn
        | some target => exact ⟨target, rfl, by simpa [htarget] using hn⟩
      obtain ⟨name, here, hname, hhere, rfl⟩ :=
        target?_eq_some (FileSystem.contains_eq_false_iff.mpr ⟨fault, hp⟩) htarget
      have hproper := Path.isName_of_fileName? hname
      have hnames := names_of_canonical h hhere
      rw [Location.append_path hnames hproper] at hsame
      have hjoined : ∀ piece ∈ here ++ [name], Path.IsName piece := by
        simpa [or_imp, forall_and] using And.intro hnames hproper
      obtain ⟨node, hnode⟩ := FileSystem.canonical_eq_ok_iff.mp hs
      rw [← Location.eq_of_same hjoined hlocation hsame] at hnode
      obtain ⟨fault', hwrite⟩ := h.write_fails hname hhere (h.lookup_of_locate hnode)
        (fun target hlink ↦ FileSystem.locate_ne_link (hlink ▸ hnode)) hp
        (Text.encode (payload text))
      exact exists_failure_of_write (FileSystem.makeDirectories_of_canonical hhere) hwrite

/-! ## What is taken -/

theorem isDevice_eq_false (h : files.IsOrdinary) (hw : files.Widens later) :
    later.isDevice path = false := by
  rw [Bool.eq_false_iff]
  intro hdevice
  obtain ⟨location, device, hlocate⟩ : ∃ location device,
      later.locate path = .ok (location, .device device) := by
    unfold FileSystem.isDevice at hdevice
    split at hdevice
    · next location device hlocate => exact ⟨location, device, hlocate⟩
    · cases hdevice
  rcases hw.stood hlocate with hd | hl
  · cases hd
  · rcases h.kinds location _ hl with ⟨content, hfile⟩ | hdirectory | ⟨target, hlink⟩
    · cases hfile
    · cases hdirectory
    · cases hlink

/-- The path of a document that was handed over leads to it, and nothing else is changed but for new
directories. -/
theorem handOver_lands (h : files.IsOrdinary) (hresult : handOver files path text = (.ok shown, later)) :
    ∃ target, later.locate path = .ok (target, .file (Text.encode (payload text))) ∧
      ∀ location, location ≠ target → later.lookup location = files.lookup location ∨
        files.lookup location = none ∧ later.lookup location = some .directory := by
  obtain ⟨made, hmade, hwritten⟩ := handOver_eq_ok hresult
  have hwidens := files.makeDirectories_widens ((path.parent?).getD [])
  rw [hmade] at hwidens
  rcases FileSystem.write_lands hwritten with ⟨-, hdevice⟩ | ⟨target, hne, rfl, hlocate⟩
  · rw [isDevice_eq_false h hwidens] at hdevice
    cases hdevice
  · refine ⟨target, hlocate, fun location hlocation ↦ ?_⟩
    rw [FileSystem.lookup_put made hne, if_neg hlocation]
    exact hwidens.lookup location

/-- The effect of a fixed document that goes to an output path.  If it is taken, the path leads to the text with a
line feed at its end, and nothing else is changed but for new directories.  If it is refused, nothing is changed,
and the path is the source or nothing could have been written to it. -/
theorem write_output (h : files.IsOrdinary) (source : DocumentId) (path : Path) (text : Text) :
    (∀ shown later, write files source (some path) text = (.ok shown, later) →
      ∃ target written, later.locate path = .ok (target, .file (Text.encode written)) ∧
        later.readText path = .ok written ∧
        (text.getLast? = some '\n' → written = text) ∧
        (text.getLast? ≠ some '\n' → written = text ++ ['\n']) ∧
        ∀ location, location ≠ target → later.lookup location = files.lookup location ∨
          files.lookup location = none ∧ later.lookup location = some .directory) ∧
    ∀ later, write files source (some path) text = (.error (refusal path), later) →
      later = files ∧ (IsSource files source path ∨
        ∃ failure, (handOver files path text).1 = .error failure) := by
  rw [write_some]
  refine ⟨fun shown later hresult ↦ ?_, fun later hresult ↦ ?_⟩
  · split at hresult
    · cases hresult
    · obtain ⟨target, hlocate, hothers⟩ := handOver_lands h hresult
      have hread : later.readText path = .ok (payload text) := by
        rw [FileSystem.readText, FileSystem.read_of_locate_file hlocate]
        simp only [Text.decode?_encode]
      refine ⟨target, payload text, hlocate, hread, fun hend ↦ ?_, fun hend ↦ ?_, hothers⟩
      · simp [payload, Text.endsInLineFeed, hend]
      · simp [payload, Text.endsInLineFeed, hend]
  · split at hresult
    · next hn =>
      cases hresult
      exact ⟨rfl, isSource_of_namesSource h hn text⟩
    · exact absurd (congrArg Prod.fst hresult) handOver_ne_refusal

/-- A document with a link to it. -/
def linked : FileSystem :=
  { nodes := [(["mod.py".toList], .file (Text.encode "original\n".toList)),
      (["link".toList], .link "mod.py".toList)] }

theorem linked_isOrdinary : linked.IsOrdinary := by
  refine FileSystem.isOrdinary_of_nodes (fun location node h ↦ ?_) rfl
  simp only [linked, List.mem_cons, List.not_mem_nil, or_false, Prod.mk.injEq] at h
  rcases h with ⟨rfl, rfl⟩ | ⟨rfl, rfl⟩
  · refine ⟨.inl ⟨_, rfl⟩, rfl, ?_⟩
    simpa using ⟨by decide, by decide, by decide⟩
  · refine ⟨.inr (.inr ⟨_, rfl⟩), rfl, ?_⟩
    simpa using ⟨by decide, by decide, by decide⟩

/-- A document is written behind a directory that is made for it, and is refused through a link to its source. -/
theorem write_output_linked :
    linked.IsOrdinary ∧
    (∃ target written,
      (write linked ⟨"/mod.py".toList⟩ (some "new/../out.py".toList) "x = 1".toList).2.locate
        "new/../out.py".toList = .ok (target, .file (Text.encode written)) ∧
          written = "x = 1\n".toList) ∧
    (write linked ⟨"/mod.py".toList⟩ (some "link".toList) "x = 1".toList).1 =
        .error (refusal "link".toList) ∧
      (write linked ⟨"/mod.py".toList⟩ (some "link".toList) "x = 1".toList).2 = linked := by
  have htaken : (write linked ⟨"/mod.py".toList⟩ (some "new/../out.py".toList) "x = 1".toList).1 =
      .ok [] := by decide
  have hrefused : (write linked ⟨"/mod.py".toList⟩ (some "link".toList) "x = 1".toList).1 =
      .error (refusal "link".toList) := by decide
  obtain ⟨target, written, hlocate, -, -, hfeed, -⟩ :=
    (write_output linked_isOrdinary _ _ _).1 _ _ (Prod.ext htaken rfl)
  exact ⟨linked_isOrdinary, ⟨target, written, hlocate, hfeed (by decide)⟩, hrefused,
    ((write_output linked_isOrdinary _ _ _).2 _ (Prod.ext hrefused rfl)).1⟩

end CodeRepair.FixedDocument
