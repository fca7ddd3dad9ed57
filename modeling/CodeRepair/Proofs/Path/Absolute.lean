import CodeRepair.FileSystem.Basic
import CodeRepair.Proofs.Path.Component

/-!
# Absolute paths

What a path is made absolute to begins at the root, has no piece that says nothing, and may keep one slash
at its end.  Such a text is its own absolute form, seen from any directory.  Of the path itself only a few
things matter: whether it begins at the root, in how many slashes, which pieces say something, and whether
a slash stands at its end.
-/

namespace CodeRepair.Path

variable {directory path start : Path} {name : Text} {names more : List Text} {tail : Text}

/-- Where the absolute form of a path begins. -/
def startOf (directory path : Path) : Path :=
  if path.isAbsolute then
    if Text.startsWith ['/', '/'] path && !Text.startsWith ['/', '/', '/'] path then ['/', '/']
    else ['/']
  else directory

/-- A path with a slash at its end, if another path has one. -/
def slashedAs (path spelled : Path) : Path :=
  if path.getLast? = some '/' && spelled.getLast? != some '/' then spelled ++ ['/'] else spelled

theorem slashedAs_self (path : Path) : slashedAs path path = path := by
  by_cases h : path.getLast? = some '/' <;> simp [slashedAs, h]

theorem absolute?_eq (h : path ≠ []) :
    absolute? directory path =
      some (slashedAs path ((busy (Text.pieces '/' path)).foldl append (startOf directory path))) := by
  rw [← busy_split, absolute?, List.isEmpty_eq_false_iff.2 h, if_neg Bool.false_ne_true]
  rfl

/-! ## Spelled from the root -/

/-- A path is spelled from the root: a beginning of one or two slashes, names that say something, and
perhaps a slash behind the last of them. -/
structure SpelledFrom (path start : Path) (names : List Text) (tail : Text) : Prop where
  eq : path = start ++ Text.join ['/'] names ++ tail
  begins : start = ['/'] ∨ start = ['/', '/']
  isBusy : ∀ name ∈ names, IsBusy name
  ends : tail = [] ∨ tail = ['/'] ∧ names ≠ []

theorem IsBusy.ne_nil (h : IsBusy name) : name ≠ [] := by
  rintro rfl
  cases h.isIdle_eq

/-- Names that say something do not end in a slash. -/
theorem getLast?_append_join_ne (hne : names ≠ []) (h : ∀ name ∈ names, IsBusy name) (start : Text) :
    (start ++ Text.join ['/'] names).getLast? ≠ some '/' :=
  getLast?_join_ne hne (h _ (List.getLast_mem hne)).ne_nil (fun name hname ↦ (h name hname).slash_not_mem)
    start

theorem pieces_join (hne : names ≠ []) (h : ∀ name ∈ names, IsBusy name) :
    Text.pieces '/' (Text.join ['/'] names) = names := by
  obtain ⟨first, rest, rfl⟩ := List.exists_cons_of_ne_nil hne
  rw [List.forall_mem_cons] at h
  rw [join_cons_eq]
  exact pieces_append_flatMap h.1.slash_not_mem fun name hname ↦ (h.2 name hname).slash_not_mem

theorem busy_pieces_join (h : ∀ name ∈ names, IsBusy name) :
    busy (Text.pieces '/' (Text.join ['/'] names)) = names := by
  by_cases hne : names = []
  · rw [hne]
    rfl
  · rw [pieces_join hne h, busy_of_isBusy h]

/-- One more name goes behind a slash, unless it is the first. -/
theorem append_join (hstart : start = ['/'] ∨ start = ['/', '/']) (h : ∀ name ∈ names, IsBusy name)
    (hname : IsBusy name) :
    append (start ++ Text.join ['/'] names) name = start ++ Text.join ['/'] (names ++ [name]) := by
  rw [append, hname.isAbsolute_eq, if_neg Bool.false_ne_true]
  by_cases hne : names = []
  · subst hne
    rcases hstart with rfl | rfl <;> simp [Text.join]
  · have hend := getLast?_append_join_ne hne h start
    have hnil : start ++ Text.join ['/'] names ≠ [] := by
      rcases hstart with rfl | rfl <;> simp
    rw [List.isEmpty_eq_false_iff.2 hnil, Bool.false_or, if_neg (by simpa using hend),
      Text.join_append _ hne (List.cons_ne_nil name []), Text.join_singleton]
    simp

theorem foldl_append_join (hstart : start = ['/'] ∨ start = ['/', '/'])
    (h : ∀ name ∈ names, IsBusy name) (hmore : ∀ name ∈ more, IsBusy name) :
    more.foldl append (start ++ Text.join ['/'] names) = start ++ Text.join ['/'] (names ++ more) := by
  induction more generalizing names with
  | nil => simp
  | cons name more ih =>
    rw [List.forall_mem_cons] at hmore
    have hnames : ∀ other ∈ names ++ [name], IsBusy other :=
      List.forall_mem_append.2 ⟨h, List.forall_mem_singleton.2 hmore.1⟩
    rw [List.foldl_cons, append_join hstart h hmore.1, ih hnames hmore.2, List.append_assoc]
    rfl

theorem foldl_append_start (hstart : start = ['/'] ∨ start = ['/', '/'])
    (h : ∀ name ∈ names, IsBusy name) : names.foldl append start = start ++ Text.join ['/'] names := by
  have hempty : ∀ name ∈ ([] : List Text), IsBusy name := nofun
  have hjoin := foldl_append_join hstart hempty h
  rwa [show Text.join ['/'] [] = [] from rfl, List.append_nil, List.nil_append] at hjoin

/-- No slash stands directly behind the beginning. -/
theorem head?_join_append_ne (h : ∀ name ∈ names, IsBusy name)
    (htail : tail = [] ∨ tail = ['/'] ∧ names ≠ []) :
    (Text.join ['/'] names ++ tail).head? ≠ some '/' := by
  cases names with
  | nil =>
    obtain rfl := htail.resolve_right fun htail ↦ htail.2 rfl
    exact nofun
  | cons first rest =>
    have hfirst := h first List.mem_cons_self
    obtain ⟨c, text, rfl⟩ := List.exists_cons_of_ne_nil hfirst.ne_nil
    rw [join_cons_eq]
    intro hc
    cases hc
    exact hfirst.slash_not_mem List.mem_cons_self

theorem startsWith_cons_slash (head text : Text) :
    Text.startsWith ('/' :: head) ('/' :: text) = Text.startsWith head text := by
  simp [Text.startsWith, Text.dropHead?]

theorem startsWith_slash_of_head? {text : Text} (h : text.head? ≠ some '/') (head : Text) :
    Text.startsWith ('/' :: head) text = false := by
  cases text with
  | nil => rfl
  | cons c text =>
    have hc : '/' ≠ c := fun hc ↦ h (hc ▸ rfl)
    simp [Text.startsWith, Text.dropHead?, hc]

namespace SpelledFrom

variable (h : SpelledFrom path start names tail)
include h

theorem ne_nil : path ≠ [] := by
  rw [h.eq]
  rcases h.begins with rfl | rfl <;> simp

theorem startOf_eq (directory : Path) : startOf directory path = start := by
  have hhead := head?_join_append_ne h.isBusy h.ends
  have hpath := h.eq
  rcases h.begins with rfl | rfl <;>
  · rw [List.append_assoc, List.cons_append] at hpath
    subst hpath
    simp only [startOf, isAbsolute_eq, beginsAtRoot, List.head?_cons, List.cons_append, List.nil_append,
      startsWith_cons_slash, startsWith_slash_of_head? hhead]
    rfl

theorem busy_eq : busy (Text.pieces '/' path) = names := by
  have htail : busy (Text.pieces '/' (Text.join ['/'] names ++ tail)) = names := by
    rcases h.ends with rfl | ⟨rfl, -⟩
    · rw [List.append_nil, busy_pieces_join h.isBusy]
    · rw [busy_pieces_append_slash, busy_pieces_join h.isBusy, Text.pieces_nil, busy_cons_of_idle rfl]
      exact List.append_nil names
  have hslash (text : Text) : busy (Text.pieces '/' ('/' :: text)) = busy (Text.pieces '/' text) := by
    rw [pieces_cons_slash, busy_cons_of_idle rfl]
  rw [h.eq, List.append_assoc]
  rcases h.begins with rfl | rfl
  · exact (hslash _).trans htail
  · exact (hslash _).trans ((hslash _).trans htail)

theorem slashedAs_eq : slashedAs path (start ++ Text.join ['/'] names) = path := by
  rcases h.ends with htail | ⟨htail, hne⟩
  · have hpath : path = start ++ Text.join ['/'] names := by rw [h.eq, htail, List.append_nil]
    rw [← hpath, slashedAs_self]
  · have hpath : path = start ++ Text.join ['/'] names ++ ['/'] := by rw [h.eq, htail]
    have hlast : path.getLast? = some '/' := by rw [hpath, List.getLast?_concat]
    have hend := getLast?_append_join_ne hne h.isBusy start
    rw [slashedAs, hlast, if_pos (by simpa using hend), hpath]

/-- What is spelled from the root is its own absolute form. -/
theorem absolute?_eq_self (directory : Path) : absolute? directory path = some path := by
  rw [absolute?_eq h.ne_nil, h.busy_eq, h.startOf_eq, foldl_append_start h.begins h.isBusy,
    h.slashedAs_eq]

end SpelledFrom

/-! ## Absolute forms -/

/-- Seen from a directory that is spelled from the root, so is the absolute form of every path but the
empty one. -/
theorem exists_spelledFrom {location : Location} (hlocation : ∀ name ∈ location, IsBusy name)
    (h : path ≠ []) :
    ∃ spelled start names tail, absolute? location.path path = some spelled ∧
      SpelledFrom spelled start names tail := by
  have hbusy : ∀ name ∈ busy (Text.pieces '/' path), IsBusy name := fun name ↦ isBusy_of_mem_busy
  obtain ⟨start, names, hstart, hnames, hfold⟩ : ∃ start names, (start = ['/'] ∨ start = ['/', '/']) ∧
      (∀ name ∈ names, IsBusy name) ∧
        (busy (Text.pieces '/' path)).foldl append (startOf location.path path) =
          start ++ Text.join ['/'] names := by
    by_cases habsolute : path.isAbsolute = true
    · have hstart : startOf location.path path = ['/'] ∨ startOf location.path path = ['/', '/'] := by
        rw [startOf, if_pos habsolute]
        split
        · exact .inr rfl
        · exact .inl rfl
      exact ⟨_, _, hstart, hbusy, foldl_append_start hstart hbusy⟩
    · have hstart : startOf location.path path = ['/'] ++ Text.join ['/'] location := if_neg habsolute
      rw [hstart]
      exact ⟨['/'], _, .inl rfl, List.forall_mem_append.2 ⟨hlocation, hbusy⟩,
        foldl_append_join (.inl rfl) hlocation hbusy⟩
  rw [absolute?_eq h, hfold]
  by_cases hslash : path.getLast? = some '/' ∧ names ≠ []
  · have hend := getLast?_append_join_ne hslash.2 hnames start
    refine ⟨_, start, names, ['/'], rfl, ?_, hstart, hnames, .inr ⟨rfl, hslash.2⟩⟩
    rw [slashedAs, if_pos (by simpa [hslash.1] using hend)]
  · refine ⟨_, start, names, [], rfl, ?_, hstart, hnames, .inl rfl⟩
    rw [slashedAs, List.append_nil, if_neg]
    rintro hboth
    rw [Bool.and_eq_true, decide_eq_true_iff, bne_iff_ne] at hboth
    obtain rfl : names = [] := by_contra fun hne ↦ hslash ⟨hboth.1, hne⟩
    rcases hstart with rfl | rfl <;> exact hboth.2 rfl

end CodeRepair.Path
