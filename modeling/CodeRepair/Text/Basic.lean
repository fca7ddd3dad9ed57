/-!
# Texts

A text is a finite list of Unicode scalar values.  Everything the library reads or writes is a
text or a list of bytes, so that every operation is an operation on lists.
-/

namespace CodeRepair

/-- A text: a list of Unicode scalar values. -/
abbrev Text := List Char

namespace Text

/-- The texts put together with a separator between neighbours. -/
def join (separator : Text) (texts : List Text) : Text :=
  List.intercalate separator texts

/-- The rest of a text after a given beginning, if it has that beginning. -/
def dropHead? : Text → Text → Option Text
  | [], text => some text
  | _ :: _, [] => none
  | c :: head, d :: text => if c = d then dropHead? head text else none

/-- Whether the first text is a beginning of the second. -/
def startsWith (head text : Text) : Bool :=
  (dropHead? head text).isSome

/-- Whether a text ends in a line feed. -/
def endsInLineFeed (text : Text) : Bool :=
  text.getLast? == some '\n'

/-- A number in decimal digits. -/
def ofNat (n : Nat) : Text :=
  Nat.toDigits 10 n

theorem dropHead?_eq_some_iff {head text rest : Text} :
    dropHead? head text = some rest ↔ text = head ++ rest := by
  induction head generalizing text with
  | nil => simp [dropHead?, eq_comm]
  | cons c head ih =>
    cases text with
    | nil => simp [dropHead?]
    | cons d text =>
      by_cases h : c = d
      · simp [dropHead?, h, ih]
      · simp [dropHead?, h, Ne.symm h]

theorem startsWith_iff {head text : Text} : startsWith head text = true ↔ head <+: text := by
  rw [startsWith, Option.isSome_iff_exists]
  simp only [dropHead?_eq_some_iff]
  exact exists_congr fun rest ↦ eq_comm

/-! ## Pieces between separators -/

/-- One step of `pieces`, read from the back of the text. -/
def pieceStep (separator c : Char) : List Text → List Text
  | [] => [[c]]
  | piece :: rest => if c = separator then [] :: piece :: rest else (c :: piece) :: rest

/-- The pieces between the occurrences of a separator: one more than there are separators. -/
def pieces (separator : Char) (text : Text) : List Text :=
  text.foldr (pieceStep separator) [[]]

@[simp]
theorem pieces_nil (separator : Char) : pieces separator [] = [[]] := rfl

theorem pieces_cons (separator c : Char) (text : Text) :
    pieces separator (c :: text) = pieceStep separator c (pieces separator text) := rfl

theorem pieces_ne_nil (separator : Char) (text : Text) : pieces separator text ≠ [] := by
  induction text with
  | nil => simp
  | cons c text ih =>
    rw [pieces_cons]
    cases h : pieces separator text with
    | nil => exact absurd h ih
    | cons piece rest =>
      by_cases hc : c = separator <;> simp [pieceStep, hc]

theorem pieceStep_append (separator c : Char) {texts : List Text} (h : texts ≠ [])
    (more : List Text) :
    pieceStep separator c (texts ++ more) = pieceStep separator c texts ++ more := by
  cases texts with
  | nil => exact absurd rfl h
  | cons piece rest => by_cases hc : c = separator <;> simp [pieceStep, hc]

/-- A separator divides the pieces before it from those behind it. -/
theorem pieces_append_cons (separator : Char) (text rest : Text) :
    pieces separator (text ++ separator :: rest) = pieces separator text ++ pieces separator rest := by
  induction text with
  | nil =>
    rw [List.nil_append, pieces_cons]
    cases h : pieces separator rest with
    | nil => exact absurd h (pieces_ne_nil separator rest)
    | cons piece others => simp [pieceStep]
  | cons c text ih =>
    rw [List.cons_append, pieces_cons, ih, pieces_cons,
      pieceStep_append separator c (pieces_ne_nil separator text)]

theorem pieces_of_not_mem {separator : Char} {text : Text} (h : separator ∉ text) :
    pieces separator text = [text] := by
  induction text with
  | nil => rfl
  | cons c text ih =>
    rw [List.mem_cons, not_or] at h
    rw [pieces_cons, ih h.2]
    simp [pieceStep, Ne.symm h.1]

theorem mem_of_mem_pieces {separator c : Char} {text piece : Text}
    (hpiece : piece ∈ pieces separator text) (hc : c ∈ piece) : c ∈ text := by
  induction text generalizing piece with
  | nil =>
    obtain rfl : piece = [] := by simpa using hpiece
    exact hc
  | cons d text ih =>
    rw [pieces_cons] at hpiece
    cases h : pieces separator text with
    | nil => exact absurd h (pieces_ne_nil separator text)
    | cons first rest =>
      rw [h] at ih hpiece
      by_cases hd : d = separator
      · rw [pieceStep, if_pos hd, List.mem_cons] at hpiece
        rcases hpiece with rfl | hpiece
        · cases hc
        · exact List.mem_cons_of_mem d (ih hpiece hc)
      · rw [pieceStep, if_neg hd, List.mem_cons] at hpiece
        rcases hpiece with rfl | hpiece
        · rcases List.mem_cons.1 hc with rfl | hc
          · exact List.mem_cons_self
          · exact List.mem_cons_of_mem d (ih List.mem_cons_self hc)
        · exact List.mem_cons_of_mem d (ih (List.mem_cons_of_mem first hpiece) hc)

theorem not_mem_of_mem_pieces {separator : Char} {text piece : Text}
    (hpiece : piece ∈ pieces separator text) : separator ∉ piece := by
  induction text generalizing piece with
  | nil =>
    obtain rfl : piece = [] := by simpa using hpiece
    exact List.not_mem_nil
  | cons d text ih =>
    rw [pieces_cons] at hpiece
    cases h : pieces separator text with
    | nil => exact absurd h (pieces_ne_nil separator text)
    | cons first rest =>
      rw [h] at ih hpiece
      by_cases hd : d = separator
      · rw [pieceStep, if_pos hd, List.mem_cons] at hpiece
        rcases hpiece with rfl | hpiece
        · exact List.not_mem_nil
        · exact ih hpiece
      · rw [pieceStep, if_neg hd, List.mem_cons] at hpiece
        rcases hpiece with rfl | hpiece
        · rw [List.mem_cons, not_or]
          exact ⟨Ne.symm hd, ih List.mem_cons_self⟩
        · exact ih (List.mem_cons_of_mem first hpiece)

@[simp]
theorem join_singleton (separator text : Text) : join separator [text] = text := by
  simp [join, List.intercalate]

@[simp]
theorem join_cons_cons (separator text next : Text) (rest : List Text) :
    join separator (text :: next :: rest) = text ++ separator ++ join separator (next :: rest) := by
  simp [join, List.intercalate, List.append_assoc]

theorem join_append (separator : Text) {texts more : List Text} (h : texts ≠ []) (hm : more ≠ []) :
    join separator (texts ++ more) = join separator texts ++ separator ++ join separator more := by
  induction texts with
  | nil => exact absurd rfl h
  | cons text rest ih =>
    cases rest with
    | nil =>
      cases more with
      | nil => exact absurd rfl hm
      | cons next others => rw [join_singleton, List.singleton_append, join_cons_cons]
    | cons next rest =>
      rw [List.cons_append, List.cons_append, join_cons_cons, ← List.cons_append,
        ih (List.cons_ne_nil next rest), join_cons_cons]
      simp only [List.append_assoc]

theorem join_pieces (separator : Char) (text : Text) :
    join [separator] (pieces separator text) = text := by
  induction text with
  | nil => simp
  | cons c text ih =>
    rw [pieces_cons]
    cases h : pieces separator text with
    | nil => exact absurd h (pieces_ne_nil separator text)
    | cons piece rest =>
      rw [h] at ih
      by_cases hc : c = separator
      · subst hc
        simp [pieceStep, ih]
      · cases rest with
        | nil => simpa [pieceStep, hc] using ih
        | cons next rest => simpa [pieceStep, hc] using ih

end Text

end CodeRepair
