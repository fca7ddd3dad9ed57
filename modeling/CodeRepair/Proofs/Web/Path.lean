import CodeRepair.Web.Address
import Mathlib.Tactic.Common

/-!
# Paths of addresses

A path is resolved piece by piece, and what a piece does to the segments before it depends on nothing
behind it but whether it is the last one.  So a text that is put behind a path leaves the path as it
was resolved, up to slashes at its end, if the text begins with a slash; otherwise it changes the last
piece.
-/

namespace CodeRepair

namespace Text

/-- A text without the separator goes on with the last piece of the text in front of it. -/
theorem exists_pieces_eq (separator : Char) (text : Text) :
    ∃ front last, pieces separator text = front ++ [last] ∧
      ∀ more, separator ∉ more → pieces separator (text ++ more) = front ++ [last ++ more] := by
  by_cases h : separator ∈ text.reverse
  · obtain ⟨back, front, htext, hback⟩ := List.eq_append_cons_of_mem h
    obtain rfl : text = front.reverse ++ separator :: back.reverse := by
      rw [← List.reverse_reverse text, htext]
      simp
    have hlast : separator ∉ back.reverse := by simpa using hback
    refine ⟨pieces separator front.reverse, back.reverse, ?_, fun more hmore ↦ ?_⟩
    · rw [pieces_append_cons, pieces_of_not_mem hlast]
    · have hboth : separator ∉ back.reverse ++ more := by simp [hback, hmore]
      rw [List.append_assoc, List.cons_append, pieces_append_cons, pieces_of_not_mem hboth]
  · rw [List.mem_reverse] at h
    refine ⟨[], text, pieces_of_not_mem h, fun more hmore ↦ ?_⟩
    have hboth : separator ∉ text ++ more := by simp [h, hmore]
    exact pieces_of_not_mem hboth

theorem pieces_replicate (separator : Char) (n : Nat) :
    pieces separator (List.replicate n separator) = List.replicate (n + 1) [] := by
  induction n with
  | zero => rfl
  | succ n ih =>
    rw [List.replicate_succ, pieces_cons, ih, List.replicate_succ, pieceStep, if_pos rfl]
    rfl

end Text

namespace Web.Address

-- the equations of the path reader are made here, before the proofs that unfold it
attribute [local simp] segmentsFrom addSegment

/-! ## Segments -/

/-- Segments with a slash in front of each. -/
def flat (segments : List Text) : Text :=
  segments.flatMap ('/' :: ·)

theorem flat_append (segments more : List Text) : flat (segments ++ more) = flat segments ++ flat more :=
  List.flatMap_append

theorem flat_replicate (n : Nat) : flat (List.replicate n []) = List.replicate n '/' := by
  induction n with
  | zero => rfl
  | succ n ih => rw [List.replicate_succ, List.replicate_succ, ← ih]; rfl

theorem cons_join_eq_flat {segments : List Text} (h : segments ≠ []) :
    '/' :: Text.join ['/'] segments = flat segments := by
  induction segments with
  | nil => exact absurd rfl h
  | cons segment rest ih =>
    cases rest with
    | nil => simp [flat]
    | cons next rest =>
      have hrest := ih (List.cons_ne_nil next rest)
      rw [Text.join_cons_cons, List.append_assoc, List.singleton_append, hrest]
      rfl

/-- A last piece of dots adds an empty segment, and any other one does what it does elsewhere. -/
theorem addSegment_true (segments : List Text) (piece : Text) :
    ∃ n, addSegment segments true piece =
      addSegment segments false piece ++ List.replicate n [] := by
  simp only [addSegment]
  split
  · exact ⟨1, by simp⟩
  split
  · exact ⟨1, by simp⟩
  · exact ⟨0, by simp⟩

theorem addSegment_nil (segments : List Text) (isLast : Bool) :
    addSegment segments isLast [] = segments ++ [[]] :=
  rfl

theorem segmentsFrom_ne_nil (segments : List Text) {pieces : List Text} (h : pieces ≠ []) :
    segmentsFrom segments pieces ≠ [] := by
  induction pieces generalizing segments with
  | nil => exact absurd rfl h
  | cons piece rest ih =>
    cases rest with
    | nil =>
      rw [segmentsFrom, addSegment]
      split
      · simp
      split
      · simp
      · simp
    | cons next rest =>
      rw [segmentsFrom]
      · exact ih _ (List.cons_ne_nil next rest)
      · exact nofun

/-- The segments before a piece depend on the pieces in front of it only. -/
theorem exists_segmentsFrom_append (front : List Text) :
    ∃ segments, ∀ next rest, segmentsFrom [] (front ++ next :: rest) =
      segmentsFrom segments (next :: rest) := by
  suffices h : ∀ start, ∃ segments, ∀ next rest, segmentsFrom start (front ++ next :: rest) =
      segmentsFrom segments (next :: rest) from h []
  induction front with
  | nil => exact fun start ↦ ⟨start, fun next rest ↦ rfl⟩
  | cons piece front ih =>
    intro start
    obtain ⟨segments, h⟩ := ih (addSegment start false piece)
    refine ⟨segments, fun next rest ↦ ?_⟩
    rw [← h next rest, List.cons_append, segmentsFrom]
    simp

theorem segmentsFrom_replicate (segments : List Text) (n : Nat) :
    segmentsFrom segments (List.replicate (n + 1) []) = segments ++ List.replicate (n + 1) [] := by
  induction n generalizing segments with
  | zero => rfl
  | succ n ih =>
    rw [List.replicate_succ, segmentsFrom, addSegment_nil, ih, List.append_assoc]
    · rfl
    · simp [List.replicate_succ]

/-! ## What is put behind a path -/

/-- A text with slashes for backslashes. -/
def slashed (text : Text) : Text :=
  text.map fun c ↦ if c = '\\' then '/' else c

theorem pathOf_cons (c : Char) (text : Text) :
    pathOf (c :: text) = flat (segmentsFrom [] (Text.pieces '/' (slashed text))) :=
  cons_join_eq_flat (segmentsFrom_ne_nil [] (Text.pieces_ne_nil '/' _))

theorem slashed_of_not_mem {text : Text} (h : '\\' ∉ text) : slashed text = text := by
  have hid : ∀ c ∈ text, (if c = '\\' then '/' else c) = c := by
    intro c hc
    refine if_neg ?_
    rintro rfl
    exact h hc
  calc
    slashed text = text.map id := List.map_congr_left hid
    _ = text := List.map_id text

/-- A path is resolved up to its last piece, which goes on in what is put behind it. -/
theorem exists_pathOf_eq (c : Char) (text : Text) :
    ∃ segments last, pathOf (c :: text) = flat (addSegment segments true last) ∧
      ∀ more rest, '/' ∉ more → '\\' ∉ more →
        pathOf (c :: text ++ more ++ '/' :: rest) =
          flat (segmentsFrom (addSegment segments false (last ++ more))
            (Text.pieces '/' (slashed rest))) := by
  obtain ⟨front, last, hpieces, happend⟩ := Text.exists_pieces_eq '/' (slashed text)
  obtain ⟨segments, hsegments⟩ := exists_segmentsFrom_append front
  refine ⟨segments, last, ?_, fun more rest hslash hback ↦ ?_⟩
  · rw [pathOf_cons, hpieces, hsegments, segmentsFrom]
  · have hmore : slashed more = more := slashed_of_not_mem hback
    have hall : slashed (text ++ more ++ '/' :: rest) =
        (slashed text ++ more) ++ '/' :: slashed rest := by
      conv_rhs => rw [← hmore]
      simp [slashed]
    have hne := Text.pieces_ne_nil '/' (slashed rest)
    rw [List.cons_append, List.cons_append, pathOf_cons, hall, Text.pieces_append_cons,
      happend more hslash, List.append_assoc, List.singleton_append, hsegments, segmentsFrom]
    exact hne

/-- A text whose pieces are segments as they are. -/
def Plain (rest : Text) : Prop :=
  ∀ segments, segmentsFrom segments (Text.pieces '/' (slashed rest)) =
    segments ++ Text.pieces '/' rest

theorem plain_replicate (n : Nat) : Plain (List.replicate n '/') := by
  intro segments
  have hslashed : slashed (List.replicate n '/') = List.replicate n '/' := by
    simp [slashed]
  rw [hslashed, Text.pieces_replicate, segmentsFrom_replicate]

theorem Plain.flat_segmentsFrom {rest : Text} (h : Plain rest) (segments : List Text) :
    flat (segmentsFrom segments (Text.pieces '/' (slashed rest))) = flat segments ++ '/' :: rest := by
  rw [h segments, flat_append, ← cons_join_eq_flat (Text.pieces_ne_nil '/' rest), Text.join_pieces]

/-- What is put behind a path with a slash in front of it is added to the path as it was resolved, up
to slashes at its end. -/
theorem exists_pathOf_append (text : Text) :
    ∃ path, (∀ rest, Plain rest → pathOf (text ++ '/' :: rest) = path ++ '/' :: rest) ∧
      ∃ n, pathOf text = path ++ List.replicate n '/' := by
  cases text with
  | nil =>
    refine ⟨[], fun rest hrest ↦ ?_, 1, rfl⟩
    rw [List.nil_append, pathOf_cons, hrest.flat_segmentsFrom]
    rfl
  | cons c text =>
    obtain ⟨segments, last, hpath, happend⟩ := exists_pathOf_eq c text
    refine ⟨flat (addSegment segments false last), fun rest hrest ↦ ?_, ?_⟩
    · have h := happend [] rest List.not_mem_nil List.not_mem_nil
      rw [List.append_nil, List.append_nil] at h
      rw [h, hrest.flat_segmentsFrom]
    · obtain ⟨n, hn⟩ := addSegment_true segments last
      exact ⟨n, by rw [hpath, hn, flat_append, flat_replicate]⟩

/-! ## What a last piece goes on with -/

theorem mem_decodeDots {c : Char} {text : Text} (h : c ∈ text) :
    c ∈ decodeDots text ∨ c ∈ ['%', '2', 'e', 'E'] := by
  fun_induction decodeDots text with
  | case1 text ih | case2 text ih =>
    simp only [List.mem_cons] at h ⊢
    grind
  | case3 d text _ _ ih =>
    simp only [List.mem_cons] at h ⊢
    grind
  | case4 => cases h

/-- A piece with a character that no dots have is no dots. -/
theorem addSegment_of_mem {c : Char} {piece : Text} (h : c ∈ piece)
    (hc : c ∉ ['.', '%', '2', 'e', 'E']) (segments : List Text) (isLast : Bool) :
    addSegment segments isLast piece = segments ++ [percentEncode isEncodedInPath piece] := by
  have hdots (dots : Text) (hall : ∀ d ∈ dots, d = '.') : decodeDots piece ≠ dots := by
    rintro rfl
    rcases mem_decodeDots h with hmem | hmem
    · exact hc (hall c hmem ▸ List.mem_cons_self)
    · exact hc (List.mem_cons_of_mem '.' hmem)
  simp [hdots]

theorem length_le_percentEncode (isEncoded : Char → Bool) (text : Text) :
    text.length ≤ (percentEncode isEncoded text).length := by
  induction text with
  | nil => exact Nat.le_refl 0
  | cons c text ih =>
    have hc : 1 ≤ (if isEncoded c then (Text.encode [c]).flatMap encodeByte else [c]).length := by
      split
      · obtain ⟨byte, bytes, hbytes⟩ := List.exists_cons_of_ne_nil (String.utf8EncodeChar_ne_nil (c := c))
        simp [Text.encode, hbytes, encodeByte]
      · exact Nat.le_refl 1
    have hcons : percentEncode isEncoded (c :: text) =
        (if isEncoded c then (Text.encode [c]).flatMap encodeByte else [c]) ++
          percentEncode isEncoded text := List.flatMap_cons
    rw [hcons, List.length_append, List.length_cons]
    omega

theorem length_flat_dropLast_le (segments : List Text) :
    (flat segments.dropLast).length ≤ (flat segments).length := by
  rcases List.eq_nil_or_concat segments with rfl | ⟨front, last, rfl⟩
  · exact Nat.le_refl _
  · rw [List.concat_eq_append, List.dropLast_concat, flat_append, List.length_append]
    exact Nat.le_add_right _ _

/-- A last piece adds its own encoding at most, and a slash. -/
theorem length_addSegment_le (segments : List Text) (piece : Text) :
    (flat (addSegment segments true piece)).length ≤
      (flat segments).length + (percentEncode isEncodedInPath piece).length + 1 := by
  have hdrop := length_flat_dropLast_le segments
  simp only [addSegment, if_true]
  split
  · rw [flat_append, List.length_append]
    have hslash : (flat [[]]).length = 1 := rfl
    omega
  split
  · rw [flat_append, List.length_append]
    have hslash : (flat [[]]).length = 1 := rfl
    omega
  · rw [flat_append, List.length_append]
    have hpiece : (flat [percentEncode isEncodedInPath piece]).length =
        (percentEncode isEncodedInPath piece).length + 1 := by
      simp [flat]
    omega

/-- A path gets longer when its last piece goes on. -/
theorem length_pathOf_lt {c : Char} {text more rest : Text} (hne : more ≠ [])
    (hmore : ∀ d ∈ more, d ∉ ['/', '\\', '.', '%', '2', 'e', 'E']) (hrest : Plain rest) :
    (pathOf (c :: text)).length + ('/' :: rest).length <
      (pathOf (c :: text ++ more ++ '/' :: rest)).length := by
  obtain ⟨segments, last, hpath, happend⟩ := exists_pathOf_eq c text
  have hslash : '/' ∉ more := fun h ↦ hmore '/' h (by decide)
  have hback : '\\' ∉ more := fun h ↦ hmore '\\' h (by decide)
  obtain ⟨d, hd⟩ := List.exists_mem_of_ne_nil more hne
  have hdots : d ∉ ['.', '%', '2', 'e', 'E'] := fun h ↦
    hmore d hd (List.mem_cons_of_mem '/' (List.mem_cons_of_mem '\\' h))
  have hsegment := addSegment_of_mem (List.mem_append_right last hd) hdots segments false
  have hencode : percentEncode isEncodedInPath (last ++ more) =
      percentEncode isEncodedInPath last ++ percentEncode isEncodedInPath more :=
    List.flatMap_append
  have hlonger : 0 < (percentEncode isEncodedInPath more).length :=
    Nat.lt_of_lt_of_le (List.length_pos_iff.2 hne) (length_le_percentEncode _ more)
  have hflat : (flat [percentEncode isEncodedInPath (last ++ more)]).length =
      (percentEncode isEncodedInPath last).length + (percentEncode isEncodedInPath more).length + 1 := by
    simp [flat, hencode]
  have hle := length_addSegment_le segments last
  rw [hpath, happend more rest hslash hback, hrest.flat_segmentsFrom, hsegment, flat_append,
    List.length_append, List.length_append, hflat]
  omega

end Web.Address

end CodeRepair
