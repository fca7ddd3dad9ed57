import CodeRepair.Document
import CodeRepair.Proofs.Path.Absolute

/-!
# Identities

The identity of a path has the components of the path, behind those of the working directory where the
path is relative.  So all spellings of a path have one identity, its text is stable, and identities are
ordered by their components.
-/

namespace CodeRepair

/-! ## Languages -/

theorem Language.ofPath_eq_python_iff {path : Path} :
    ofPath path = python ↔ path.extension? = some "py".toList ∨ path.extension? = some "pyi".toList := by
  unfold ofPath
  split <;> simp_all

/-- Paths that are the same are in one language. -/
theorem Language.ofPath_congr {path other : Path} (h : path.same other = true) :
    ofPath path = ofPath other := by
  rw [ofPath, ofPath, Path.extension?_congr h]

namespace DocumentId

open CodeRepair.Path

variable {directory path other : Path} {idles : List Text}

/-! ## The components of an identity -/

/-- The components of a path as seen from a directory: its own, or those of the directory and its own
without the `.` in front. -/
def resolved (directory path : Path) : List Component :=
  if path.isAbsolute then path.components
  else directory.components ++ path.components.filter (· != .current)

theorem resolved_congr (h : path.same other = true) : resolved directory path = resolved directory other := by
  rw [resolved, resolved, isAbsolute_congr h, Path.same_iff.1 h]

theorem resolved_eq (directory path : Path) :
    resolved directory path = (if path.isAbsolute then [.root] else directory.components) ++
      (busy (Text.pieces '/' path)).map Component.ofPiece := by
  have hnames : ((busy (Text.pieces '/' path)).map Component.ofPiece).filter (· != .current) =
      (busy (Text.pieces '/' path)).map Component.ofPiece := by
    rw [List.filter_eq_self]
    intro component hcomponent
    exact bne_iff_ne.2 fun h ↦ current_not_mem_ofPiece _ (h ▸ hcomponent)
  rw [resolved, components_eq, Path.isAbsolute]
  cases path.split.1 with
  | root => rfl
  | none | current =>
    rw [List.filter_append, hnames]
    rfl

theorem components_startOf (directory path : Path) :
    (startOf directory path).components =
      if path.isAbsolute then [.root] else directory.components := by
  unfold startOf
  split
  · split <;> rfl
  · rfl

theorem append_ne_nil {name : Text} (h : IsBusy name) (path : Path) : path.append name ≠ [] := by
  rcases append_eq_of_isBusy h path with ⟨happend, -⟩ | ⟨before, happend, -⟩
  · rw [happend]
    exact h.ne_nil
  · simp [happend]

theorem foldl_append_ne_nil {names : List Text} (h : ∀ name ∈ names, IsBusy name) {start : Path}
    (hne : start ≠ [] ∨ names ≠ []) : names.foldl append start ≠ [] := by
  induction names generalizing start with
  | nil => exact hne.resolve_right fun hnil ↦ hnil rfl
  | cons name names ih =>
    rw [List.forall_mem_cons] at h
    exact ih h.2 (.inl (append_ne_nil h.1 start))

theorem components_slashedAs {spelled : Path} (h : spelled ≠ []) (path : Path) :
    (slashedAs path spelled).components = spelled.components := by
  unfold slashedAs
  split
  · exact components_append_slash h
  · rfl

/-- The identity of a path has the components of the path as seen from the directory. -/
theorem components_ofPath (h : path ≠ [])
    (hnames : directory ≠ [] ∨ busy (Text.pieces '/' path) ≠ []) :
    (ofPath directory path).path.components = resolved directory path := by
  have hbusy : ∀ name ∈ busy (Text.pieces '/' path), IsBusy name := fun name ↦ isBusy_of_mem_busy
  have hstart : startOf directory path ≠ [] ∨ busy (Text.pieces '/' path) ≠ [] := by
    refine hnames.imp_left fun hne ↦ ?_
    unfold startOf
    split
    · split <;> exact List.cons_ne_nil _ _
    · exact hne
  rw [ofPath, absolute?_eq h, Option.getD_some,
    components_slashedAs (foldl_append_ne_nil hbusy hstart), components_foldl_append hbusy,
    components_startOf, resolved_eq]

/-- Only where a path begins and what it names matters for its identity. -/
theorem same_ofPath (hdirectory : directory ≠ []) (hpath : path ≠ []) (hother : other ≠ [])
    (habsolute : path.isAbsolute = other.isAbsolute)
    (hbusy : busy (Text.pieces '/' path) = busy (Text.pieces '/' other)) :
    (ofPath directory path).same (ofPath directory other) = true := by
  refine Path.same_iff.2 ?_
  rw [components_ofPath hpath (.inl hdirectory), components_ofPath hother (.inl hdirectory), resolved_eq,
    resolved_eq, habsolute, hbusy]

/-! ## Spellings -/

theorem isAbsolute_append (h : path ≠ []) (rest : Text) :
    Path.isAbsolute (path ++ rest) = path.isAbsolute := by
  rw [isAbsolute_eq, isAbsolute_eq, beginsAtRoot, beginsAtRoot, List.head?_append_of_ne_nil _ h]

/-- Idle pieces between two slashes leave the identity as it is, also directly behind the root. -/
theorem same_ofPath_inserted (hdirectory : directory ≠ []) (hidles : ∀ piece ∈ idles, isIdle piece = true)
    (front back : Text) :
    (ofPath directory (front ++ idles.flatMap ('/' :: ·) ++ '/' :: back)).same
      (ofPath directory (front ++ '/' :: back)) = true := by
  have habsolute : Path.isAbsolute (front ++ idles.flatMap ('/' :: ·) ++ '/' :: back) =
      Path.isAbsolute (front ++ '/' :: back) := by
    rw [isAbsolute_eq, isAbsolute_eq, beginsAtRoot, beginsAtRoot]
    cases front with
    | nil => cases idles <;> rfl
    | cons c front => rfl
  exact same_ofPath hdirectory (by simp) (by simp) habsolute
    (busy_pieces_append_idles front hidles _ (.inr ⟨back, rfl⟩))

/-- So do idle pieces at the end of a path. -/
theorem same_ofPath_extended (hdirectory : directory ≠ []) (hidles : ∀ piece ∈ idles, isIdle piece = true)
    (h : path ≠ []) :
    (ofPath directory (path ++ idles.flatMap ('/' :: ·))).same (ofPath directory path) = true := by
  have hbusy := busy_pieces_append_idles path hidles [] (.inl rfl)
  rw [List.append_nil, List.append_nil] at hbusy
  exact same_ofPath hdirectory (by simp [h]) h (isAbsolute_append h _) hbusy

/-- A `./` in front of a relative path does not even show in the text of the identity. -/
theorem ofPath_current (directory : Path) (h : path ≠ []) (hrelative : path.isAbsolute = false) :
    ofPath directory ('.' :: '/' :: path) = ofPath directory path := by
  have hbusy : busy (Text.pieces '/' ('.' :: '/' :: path)) = busy (Text.pieces '/' path) := by
    have hpieces : Text.pieces '/' ('.' :: '/' :: path) = ['.'] :: Text.pieces '/' path :=
      Text.pieces_append_cons '/' ['.'] path
    rw [hpieces, busy_cons_of_idle rfl]
  have hstart : startOf directory ('.' :: '/' :: path) = startOf directory path := by
    rw [startOf, startOf, hrelative]
    rfl
  have hslash (spelled : Path) : slashedAs ('.' :: '/' :: path) spelled = slashedAs path spelled := by
    obtain ⟨c, text, rfl⟩ := List.exists_cons_of_ne_nil h
    rw [slashedAs, slashedAs, List.getLast?_cons_cons, List.getLast?_cons_cons]
  rw [ofPath, ofPath, absolute?_eq h, absolute?_eq (List.cons_ne_nil _ _), hbusy, hstart, hslash,
    Option.getD_some, Option.getD_some]

/-- The identity of the text of an identity is that identity, with that text. -/
theorem ofPath_path {location : Location} (h : ∀ name ∈ location, IsBusy name) (path : Path) :
    ofPath location.path (ofPath location.path path).path = ofPath location.path path := by
  by_cases hpath : path = []
  · subst hpath
    rfl
  · obtain ⟨spelled, start, names, tail, habsolute, hspelled⟩ := exists_spelledFrom h hpath
    have hid : ofPath location.path path = ⟨spelled⟩ := by rw [ofPath, habsolute, Option.getD_some]
    rw [hid, ofPath, hspelled.absolute?_eq_self, Option.getD_some]

/-! ## The laws of identities -/

/-- Identities as seen from a directory are canonical. -/
structure AreCanonical (directory : Path) : Prop where
  /-- The text of an identity stands for the identity, and it is the text of that. -/
  stable : ∀ path, ofPath directory (ofPath directory path).path = ofPath directory path
  /-- Every path but the empty one is resolved against the directory. -/
  components : ∀ path, path ≠ [] →
    (ofPath directory path).path.components = resolved directory path
  /-- Empty pieces and `.` behind any slash of a path make no difference, however many they are. -/
  inserted : ∀ (front back : Text) (idles : List Text), (∀ piece ∈ idles, isIdle piece = true) →
    (ofPath directory (front ++ idles.flatMap ('/' :: ·) ++ '/' :: back)).same
      (ofPath directory (front ++ '/' :: back)) = true
  /-- Neither do they at the end of a path. -/
  extended : ∀ (path : Path) (idles : List Text), path ≠ [] → (∀ piece ∈ idles, isIdle piece = true) →
    (ofPath directory (path ++ idles.flatMap ('/' :: ·))).same (ofPath directory path) = true
  /-- Neither does `./` in front of a relative path. -/
  current : ∀ path : Path, path ≠ [] → path.isAbsolute = false →
    ofPath directory ('.' :: '/' :: path) = ofPath directory path

/-- Identities are equal when their components are, and they stand in a total order that says so. -/
structure AreOrdered : Prop where
  same_iff : ∀ id other : DocumentId, id.same other = true ↔ id.path.components = other.path.components
  equivalence : Equivalence fun id other : DocumentId ↦ id.same other = true
  /-- Of two identities one comes first, seen from either side, or they are equal. -/
  swap : ∀ id other : DocumentId, id.compare other = (other.compare id).swap
  antisymm : ∀ id other : DocumentId, (id.compare other).isLE → (other.compare id).isLE →
    id.same other = true
  trans : ∀ id other third : DocumentId, (id.compare other).isLE → (other.compare third).isLE →
    (id.compare third).isLE
  compare_eq_iff : ∀ id other : DocumentId, id.compare other = .eq ↔ id.same other = true

theorem equivalence_same : Equivalence fun id other : DocumentId ↦ id.same other = true where
  refl _ := Path.same_iff.2 rfl
  symm h := Path.same_iff.2 (Path.same_iff.1 h).symm
  trans h hnext := Path.same_iff.2 ((Path.same_iff.1 h).trans (Path.same_iff.1 hnext))

theorem swap_compare (id other : DocumentId) : id.compare other = (other.compare id).swap :=
  @Std.OrientedCmp.eq_swap _ Path.compare _ id.path other.path

theorem same_of_isLE {id other : DocumentId} (h : (id.compare other).isLE)
    (hback : (other.compare id).isLE) : id.same other = true := by
  rw [swap_compare, Ordering.isLE_swap] at hback
  exact Path.compare_eq_eq_iff.1 (Ordering.eq_eq_of_isLE_of_isGE h hback)

theorem isLE_trans {id other third : DocumentId} (h : (id.compare other).isLE)
    (hnext : (other.compare third).isLE) : (id.compare third).isLE :=
  @Std.TransCmp.isLE_trans _ Path.compare _ id.path other.path third.path h hnext

/-- Seen from a working directory, identities are canonical; they are totally ordered, and documents with
equal identities have the same language. -/
theorem identities_canonical (location : Location) (h : ∀ name ∈ location, Path.IsName name) :
    AreCanonical location.path ∧ AreOrdered ∧
      ∀ document other : Document, document.id.same other.id = true →
        document.language = other.language := by
  have hbusy : ∀ name ∈ location, IsBusy name := fun name hname ↦ (h name hname).isBusy
  have hne : location.path ≠ [] := List.cons_ne_nil _ _
  refine ⟨?_, ?_, fun document other hsame ↦ Language.ofPath_congr hsame⟩
  · exact {
      stable := ofPath_path hbusy
      components := fun path hpath ↦ components_ofPath hpath (.inl hne)
      inserted := fun front back idles hidles ↦ same_ofPath_inserted hne hidles front back
      extended := fun path idles hpath hidles ↦ same_ofPath_extended hne hidles hpath
      current := fun path ↦ ofPath_current location.path }
  · exact {
      same_iff := fun id other ↦ Path.same_iff
      equivalence := equivalence_same
      swap := swap_compare
      antisymm := fun id other ↦ same_of_isLE
      trans := fun id other third ↦ isLE_trans
      compare_eq_iff := fun id other ↦ Path.compare_eq_eq_iff }

theorem identities_canonical_respelled :
    let location : Location := ["w".toList, "two words".toList]
    (∀ name ∈ location, Path.IsName name) ∧
      ((AreCanonical location.path ∧ AreOrdered ∧
        ∀ document other : Document, document.id.same other.id = true →
          document.language = other.language) ∧
        (ofPath location.path ".//a/./../b.pyi/".toList).path = "/w/two words/a/../b.pyi/".toList ∧
        (ofPath location.path "//a//b".toList).path = "//a/b".toList) := by
  intro location
  have hnames : ∀ name ∈ location, Path.IsName name := by
    simp only [location, List.forall_mem_cons]
    exact ⟨⟨by decide, by decide, by decide⟩, ⟨by decide, by decide, by decide⟩, nofun⟩
  exact ⟨hnames, identities_canonical location hnames, by decide, by decide⟩

end DocumentId

end CodeRepair
