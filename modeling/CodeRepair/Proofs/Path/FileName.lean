import CodeRepair.Proofs.Path.Parent

/-!
# File names

The file name of a path is the last of the names that say something.  What stands behind it says nothing,
and what stands in front of it ends in a slash.  Another extension changes what stands behind the last dot
of the file name, so that the path ends in another name.
-/

namespace CodeRepair.Path

variable {path parent front back : Path} {name extension : Text} {pieces : List Text}

/-- The pieces of a path that say something. -/
def busy (pieces : List Text) : List Text :=
  pieces.filter fun piece ↦ !isIdle piece

theorem busy_append (pieces more : List Text) : busy (pieces ++ more) = busy pieces ++ busy more :=
  List.filter_append ..

theorem busy_cons_of_idle {piece : Text} (h : isIdle piece = true) (more : List Text) :
    busy (piece :: more) = busy more := by
  simp [busy, h]

theorem busy_cons_of_not_idle {piece : Text} (h : isIdle piece = false) (more : List Text) :
    busy (piece :: more) = piece :: busy more := by
  simp [busy, h]

theorem busy_eq_nil_iff : busy pieces = [] ↔ ∀ piece ∈ pieces, isIdle piece = true := by
  simp [busy]

theorem getLast?_busy (before : List Text) {after : List Text} (hname : isIdle name = false)
    (hafter : ∀ piece ∈ after, isIdle piece = true) :
    (busy (before ++ name :: after)).getLast? = some name := by
  rw [busy_append, busy_cons_of_not_idle hname, busy_eq_nil_iff.2 hafter, List.getLast?_concat]

/-- Behind the last piece that says something there are idle ones only. -/
theorem exists_of_getLast?_busy (h : (busy pieces).getLast? = some name) :
    ∃ before after, pieces.rdropWhile isIdle = before ++ [name] ∧ pieces = before ++ name :: after ∧
      isIdle name = false ∧ ∀ piece ∈ after, isIdle piece = true := by
  have hparts := @List.rdropWhile_append_rtakeWhile _ isIdle pieces
  have hafter : ∀ piece ∈ pieces.rtakeWhile isIdle, isIdle piece = true :=
    fun piece hpiece ↦ List.mem_rtakeWhile_imp hpiece
  rcases List.eq_nil_or_concat (pieces.rdropWhile isIdle) with hnil | ⟨before, last, hlast⟩
  · rw [busy_eq_nil_iff.2 (List.rdropWhile_eq_nil_iff.1 hnil)] at h
    cases h
  rw [List.concat_eq_append] at hlast
  have hidle : isIdle last = false := by
    have hnot := List.rdropWhile_last_not isIdle pieces (by simp [hlast])
    simpa [hlast] using hnot
  rw [hlast, List.append_assoc, List.singleton_append] at hparts
  rw [← hparts, getLast?_busy before hidle hafter] at h
  cases h
  exact ⟨before, _, hlast, hparts.symm, hidle, hafter⟩

/-! ## The last name -/

theorem pieces_cons_slash (text : Text) : Text.pieces '/' ('/' :: text) = [] :: Text.pieces '/' text :=
  Text.pieces_append_cons '/' [] text

theorem busy_split (path : Path) :
    busy (Text.pieces '/' path.split.2) = busy (Text.pieces '/' path) := by
  unfold split
  split
  · rw [pieces_cons_slash, busy_cons_of_idle rfl]
  · rfl
  · next rest =>
    have hdot : Text.pieces '/' ('.' :: '/' :: rest) = ['.'] :: Text.pieces '/' rest :=
      Text.pieces_append_cons '/' ['.'] rest
    rw [hdot, pieces_cons_slash, busy_cons_of_idle rfl, busy_cons_of_idle rfl]
  · rfl

/-- The pieces of a path that are not empty. -/
def named (pieces : List Text) : List Text :=
  pieces.filter fun piece ↦ !piece.isEmpty

theorem exists_names_eq_named (path : Path) :
    ∃ last, path.names = named (Text.pieces '/' path) ++ last ∧ ∀ name ∈ last, name = [] := by
  unfold names
  simp only
  split
  · exact ⟨[[]], rfl, by simp⟩
  · exact ⟨[], (List.append_nil _).symm, nofun⟩

theorem busy_named (pieces : List Text) : busy (named pieces) = busy pieces := by
  rw [busy, busy, named, List.filter_filter]
  congr 1
  funext piece
  cases piece <;> simp [isIdle]

theorem busy_names (path : Path) : busy path.names = busy (Text.pieces '/' path) := by
  obtain ⟨last, hnames, hempty⟩ := path.exists_names_eq_named
  have hlast : busy last = [] := busy_eq_nil_iff.2 fun name hname ↦ by
    rw [hempty name hname]
    rfl
  rw [hnames, busy_append, busy_named, hlast, List.append_nil]

/-- The file name of a path is the last piece that says something, unless the path goes up there. -/
theorem fileName?_eq_some_iff :
    path.fileName? = some name ↔
      (busy (Text.pieces '/' path)).getLast? = some name ∧ name ≠ ['.', '.'] := by
  have hlast : path.pieces.getLast? = (busy (Text.pieces '/' path)).getLast? := by
    rw [← busy_split]
    show ((Text.pieces '/' path.split.2).rdropWhile isIdle).getLast? = _
    cases h : (busy (Text.pieces '/' path.split.2)).getLast? with
    | none =>
      rw [List.rdropWhile_eq_nil_iff.2 (busy_eq_nil_iff.1 (List.getLast?_eq_none_iff.1 h))]
      rfl
    | some last =>
      obtain ⟨before, after, hdrop, -⟩ := exists_of_getLast?_busy h
      rw [hdrop, List.getLast?_concat]
  unfold fileName?
  rw [hlast]
  cases (busy (Text.pieces '/' path)).getLast? with
  | none => simp
  | some last =>
    by_cases h : last = ['.', '.']
    · simp [h, eq_comm]
    · simp only [h, if_false, Option.some.injEq]
      exact ⟨fun he ↦ ⟨he, he ▸ h⟩, And.left⟩

/-- A name that an entry of a directory can bear. -/
structure IsName (name : Text) : Prop where
  slash_not_mem : '/' ∉ name
  isIdle_eq : isIdle name = false
  ne_above : name ≠ ['.', '.']

theorem isName_of_fileName? (h : path.fileName? = some name) : IsName name := by
  obtain ⟨hlast, hne⟩ := fileName?_eq_some_iff.1 h
  obtain ⟨before, after, -, hpieces, hidle, -⟩ := exists_of_getLast?_busy hlast
  exact ⟨Text.not_mem_of_mem_pieces (by rw [hpieces]; simp), hidle, hne⟩


/-! ## What stands around a name -/

/-- A text without slashes and the pieces behind it. -/
theorem pieces_append_flatMap {texts : List Text} (h : '/' ∉ name)
    (htexts : ∀ text ∈ texts, '/' ∉ text) :
    Text.pieces '/' (name ++ texts.flatMap ('/' :: ·)) = name :: texts := by
  induction texts generalizing name with
  | nil => rw [List.flatMap_nil, List.append_nil, Text.pieces_of_not_mem h]
  | cons text texts ih =>
    rw [List.forall_mem_cons] at htexts
    rw [List.flatMap_cons, List.cons_append, Text.pieces_append_cons, Text.pieces_of_not_mem h,
      ih htexts.1 htexts.2]
    rfl

theorem join_cons_eq (text : Text) (texts : List Text) :
    Text.join ['/'] (text :: texts) = text ++ texts.flatMap ('/' :: ·) := by
  induction texts generalizing text with
  | nil => simp
  | cons next texts ih => rw [Text.join_cons_cons, ih, List.flatMap_cons]; simp

theorem slash_not_mem_of_idle {piece : Text} (h : isIdle piece = true) : '/' ∉ piece := by
  have hcases : piece = [] ∨ piece = ['.'] := by simpa [isIdle] using h
  rcases hcases with rfl | rfl <;> decide

/-- A path is a beginning that ends in a slash, a name, and idle pieces behind it. -/
structure Divides (path front : Path) (name : Text) (after : List Text) : Prop where
  eq : path = front ++ name ++ after.flatMap ('/' :: ·)
  front : front = [] ∨ ∃ before, front = before ++ ['/']
  slash_not_mem : '/' ∉ name
  isIdle_eq : isIdle name = false
  after : ∀ piece ∈ after, isIdle piece = true

theorem Divides.getLast?_busy {after : List Text} (h : Divides path front name after) :
    (busy (Text.pieces '/' path)).getLast? = some name := by
  have hback := pieces_append_flatMap h.slash_not_mem fun piece hpiece ↦
    slash_not_mem_of_idle (h.after piece hpiece)
  rw [h.eq, List.append_assoc]
  rcases h.front with rfl | ⟨before, rfl⟩
  · rw [List.nil_append, hback]
    exact Path.getLast?_busy [] h.isIdle_eq h.after
  · rw [List.append_assoc, List.singleton_append, Text.pieces_append_cons, hback]
    exact Path.getLast?_busy _ h.isIdle_eq h.after

/-- What stands in front of a name among pieces ends in a slash. -/
theorem exists_join_eq (before : List Text) :
    ∃ lead, (before = [] ∧ lead = [] ∨ before ≠ [] ∧ ∃ text, lead = text ++ ['/']) ∧
      ∀ name after, Text.join ['/'] (before ++ name :: after) =
        lead ++ name ++ after.flatMap ('/' :: ·) := by
  cases before with
  | nil => exact ⟨[], .inl ⟨rfl, rfl⟩, fun name after ↦ join_cons_eq name after⟩
  | cons first others =>
    refine ⟨first ++ others.flatMap ('/' :: ·) ++ ['/'], .inr ⟨List.cons_ne_nil first others, _, rfl⟩,
      fun name after ↦ ?_⟩
    rw [List.cons_append, join_cons_eq, List.flatMap_append, List.flatMap_cons]
    simp

/-- What stands behind a path that does not end in a slash adds its names. -/
theorem named_append_flatMap {texts : List Text} (hne : texts ≠ [])
    (htexts : ∀ text ∈ texts, '/' ∉ text) (hlast : parent.getLast? ≠ some '/') :
    named (Text.pieces '/' (parent ++ texts.flatMap ('/' :: ·))) = parent.names ++ named texts := by
  obtain ⟨text, texts, rfl⟩ := List.exists_cons_of_ne_nil hne
  rw [List.forall_mem_cons] at htexts
  rw [List.flatMap_cons, List.cons_append, Text.pieces_append_cons,
    pieces_append_flatMap htexts.1 htexts.2, names_of_getLast?_ne hlast]
  exact List.filter_append ..

theorem beginsAtRoot_eq (path : Path) : path.beginsAtRoot = (path.split.1 == .root) := by
  unfold beginsAtRoot split
  split
  · rfl
  · rfl
  · rfl
  · next hroot _ _ =>
    cases path with
    | nil => rfl
    | cons c rest =>
      have hc : c ≠ '/' := fun hc ↦ hroot rest (hc ▸ rfl)
      simp [hc]

/-- What is put together from the first pieces of a path, the last of which says something, begins where
the path begins, and the other pieces add their names to it. -/
theorem names_of_pieces {rest back : List Text} (h : Text.pieces '/' path.split.2 = rest ++ back)
    (hrest : ∀ hne : rest ≠ [], isIdle (rest.getLast hne) = false) (hback : busy back ≠ []) :
    Path.beginsAtRoot (path.split.1.text ++ Text.join ['/'] rest) = path.beginsAtRoot ∧
      named (Text.pieces '/' path) =
        Path.names (path.split.1.text ++ Text.join ['/'] rest) ++ named back := by
  obtain ⟨anchor, text, hsplit⟩ : ∃ anchor text, path.split = (anchor, text) := ⟨_, _, rfl⟩
  have hpath : path = anchor.text ++ text := by rw [← split_text path, hsplit]
  rw [hsplit] at h ⊢
  simp only at h ⊢
  have hslash : ∀ piece ∈ rest ++ back, '/' ∉ piece := fun piece hpiece ↦
    Text.not_mem_of_mem_pieces (h ▸ hpiece)
  have hbackSlash : ∀ piece ∈ back, '/' ∉ piece := fun piece hpiece ↦
    hslash piece (List.mem_append_right rest hpiece)
  have hne : back ≠ [] := by
    rintro rfl
    exact hback rfl
  cases rest with
  | nil =>
    rw [List.nil_append] at h
    have hempty : Text.join ['/'] [] = ([] : Text) := rfl
    rw [hempty, List.append_nil]
    cases anchor with
    | none =>
      have htext : path = text := hpath
      rw [beginsAtRoot_eq path, hsplit, htext, h]
      exact ⟨rfl, rfl⟩
    | root =>
      have htext : path = '/' :: text := hpath
      rw [htext, pieces_cons_slash, h]
      exact ⟨rfl, rfl⟩
    | current =>
      rcases eq_nil_or_of_split_eq_current hsplit with rfl | ⟨after, rfl⟩
      · rw [Text.pieces_nil] at h
        rw [← h] at hback
        exact absurd rfl hback
      · have htext : path = '.' :: '/' :: after := hpath
        have hpieces : Text.pieces '/' path = ['.'] :: Text.pieces '/' after := by
          rw [htext]
          exact Text.pieces_append_cons '/' ['.'] after
        rw [hpieces, ← h, pieces_cons_slash, htext]
        exact ⟨rfl, rfl⟩
  | cons first others =>
    have hlast := hrest (List.cons_ne_nil first others)
    have hparent : path = anchor.text ++ Text.join ['/'] (first :: others) ++
        back.flatMap ('/' :: ·) := by
      rw [hpath, ← Text.join_pieces '/' text, h, List.cons_append, join_cons_eq, join_cons_eq,
        List.flatMap_append]
      simp
    have hend : (anchor.text ++ Text.join ['/'] (first :: others)).getLast? ≠ some '/' := by
      refine getLast?_join_ne (List.cons_ne_nil first others) ?_ (fun piece hpiece ↦
        hslash piece (List.mem_append_left back hpiece)) _
      intro hnil
      rw [hnil] at hlast
      cases hlast
    have hnil : anchor.text ++ Text.join ['/'] (first :: others) ≠ [] := by
      intro hnil
      rw [List.append_eq_nil_iff, join_cons_eq, List.append_eq_nil_iff] at hnil
      obtain ⟨-, rfl, hothers⟩ := hnil
      cases others with
      | nil => cases hlast
      | cons next others => cases hothers
    have hnamed := named_append_flatMap hne hbackSlash hend
    rw [← hparent] at hnamed
    refine ⟨?_, hnamed⟩
    rw [beginsAtRoot, beginsAtRoot, hparent, List.head?_append_of_ne_nil _ hnil]

/-- The names of a path with a file name are those of its parent, the file name, and idle ones. -/
theorem exists_names_eq (h : path.fileName? = some name) :
    ∃ parent idles after, path.parent? = some parent ∧ parent.beginsAtRoot = path.beginsAtRoot ∧
      path.names = parent.names ++ (idles ++ name :: after) ∧
        (∀ piece ∈ idles, isIdle piece = true) ∧ ∀ piece ∈ after, isIdle piece = true := by
  obtain ⟨hlast, -⟩ := fileName?_eq_some_iff.1 h
  rw [← busy_split] at hlast
  obtain ⟨before, after, hdrop, hpieces, hidle, hafter⟩ := exists_of_getLast?_busy hlast
  have hpieces' : Text.pieces '/' path.split.2 =
      before.rdropWhile isIdle ++ (before.rtakeWhile isIdle ++ name :: after) := by
    rw [← List.append_assoc, List.rdropWhile_append_rtakeWhile, hpieces]
  have hidles : ∀ piece ∈ before.rtakeWhile isIdle, isIdle piece = true := fun piece hpiece ↦
    List.mem_rtakeWhile_imp hpiece
  have hparent : path.parent? =
      some (path.split.1.text ++ Text.join ['/'] (before.rdropWhile isIdle)) := by
    have hdrop : path.pieces = before ++ [name] := hdrop
    unfold parent?
    split
    · next hnil => simp [hdrop] at hnil
    · rw [hdrop, List.dropLast_concat]
      rfl
  have hbusy : busy (before.rtakeWhile isIdle ++ name :: after) ≠ [] := fun hnil ↦ by
    have hname := getLast?_busy (before.rtakeWhile isIdle) hidle hafter
    rw [hnil] at hname
    cases hname
  have hbegins := names_of_pieces hpieces' (fun hne ↦ by
    simpa using List.rdropWhile_last_not isIdle before hne) hbusy
  obtain ⟨last, hnames, hempty⟩ := path.exists_names_eq_named
  have hname : name.isEmpty = false := by
    cases name with
    | nil => cases hidle
    | cons c name => rfl
  refine ⟨_, named (before.rtakeWhile isIdle), named after ++ last, hparent, hbegins.1, ?_, ?_, ?_⟩
  · rw [hnames, hbegins.2, named, named, named, List.filter_append, List.filter_cons, hname]
    simp
  · exact fun piece hpiece ↦ hidles piece (List.mem_of_mem_filter hpiece)
  · intro piece hpiece
    rcases List.mem_append.1 hpiece with hp | hp
    · exact hafter piece (List.mem_of_mem_filter hp)
    · rw [hempty piece hp]
      rfl

end CodeRepair.Path
