import CodeRepair.Text.Blank
import Mathlib.Data.List.DropRight
import Mathlib.Tactic.Common

/-!
# Trimming

Trimming cuts a text down to the part between its outermost characters that are not white space.
What it leaves has no white space at its ends, and white space put around a text does not change
what is left.
-/

namespace CodeRepair.Text

/-- White space only, or nothing. -/
def IsBlank (text : Text) : Prop :=
  ∀ c ∈ text, isBlank c = true

instance (text : Text) : Decidable (IsBlank text) :=
  decidable_of_iff (text.all isBlank = true) List.all_eq_true

theorem isAllBlank_eq_false_iff {text : Text} : isAllBlank text = false ↔ ¬ IsBlank text := by
  rw [← Bool.not_eq_true, isAllBlank, List.all_eq_true, IsBlank]

/-- No white space at either end. -/
structure IsTrimmed (text : Text) : Prop where
  head : ∀ c ∈ text.head?, isBlank c = false
  last : ∀ c ∈ text.getLast?, isBlank c = false

theorem trim_eq_rdropWhile (text : Text) :
    trim text = (text.dropWhile isBlank).rdropWhile isBlank := rfl

theorem isTrimmed_trim (text : Text) : IsTrimmed (trim text) where
  head c hc := by
    have hprefix : trim text <+: text.dropWhile isBlank := List.rdropWhile_prefix isBlank _
    obtain ⟨rest, hrest⟩ := List.head?_eq_some_iff.1 hc
    obtain ⟨after, hafter⟩ := hprefix
    have hnot := List.head?_dropWhile_not isBlank text
    rw [← hafter, hrest] at hnot
    simpa using hnot
  last c hc := by
    obtain ⟨front, hfront⟩ := List.getLast?_eq_some_iff.1 hc
    have hne : (text.dropWhile isBlank).rdropWhile isBlank ≠ [] := by
      rw [← trim_eq_rdropWhile, hfront]
      exact List.append_ne_nil_of_right_ne_nil front (List.cons_ne_nil c [])
    have hnot := List.rdropWhile_last_not isBlank (text.dropWhile isBlank) hne
    simp only [← trim_eq_rdropWhile, hfront, List.getLast_append_singleton] at hnot
    simpa using hnot

theorem IsTrimmed.trim_eq {text : Text} (h : IsTrimmed text) : trim text = text := by
  have hleft : text.dropWhile isBlank = text := by
    cases text with
    | nil => rfl
    | cons c text => rw [List.dropWhile_cons, h.head c rfl]; rfl
  rw [trim_eq_rdropWhile, hleft, List.rdropWhile_eq_self_iff]
  intro hne hblank
  have hlast := h.last _ (List.getLast?_eq_some_getLast hne)
  rw [hblank] at hlast
  cases hlast

theorem trim_append_left {before : Text} (h : IsBlank before) (text : Text) :
    trim (before ++ text) = trim text := by
  rw [trim_eq_rdropWhile, List.dropWhile_append_of_pos h, trim_eq_rdropWhile]

theorem trim_append_right (text : Text) {after : Text} (h : IsBlank after) :
    trim (text ++ after) = trim text := by
  induction after generalizing text with
  | nil => rw [List.append_nil]
  | cons c after ih =>
    have hc : isBlank c = true := h c List.mem_cons_self
    have hafter : IsBlank after := fun d hd ↦ h d (List.mem_cons_of_mem c hd)
    rw [List.append_cons, ih (text ++ [c]) hafter, trim_append_blank text hc]

/-- A text is what trimming leaves of it, with white space around it. -/
theorem exists_eq_append_trim (text : Text) :
    ∃ before after, IsBlank before ∧ IsBlank after ∧ text = before ++ trim text ++ after := by
  refine ⟨text.takeWhile isBlank, (text.dropWhile isBlank).rtakeWhile isBlank, ?_, ?_, ?_⟩
  · exact List.all_eq_true.1 List.all_takeWhile
  · exact fun c hc ↦ List.mem_rtakeWhile_imp hc
  · rw [List.append_assoc, trim_eq_rdropWhile, List.rdropWhile_append_rtakeWhile,
      List.takeWhile_append_dropWhile]

theorem trim_isInfix (text : Text) : trim text <:+: text := by
  obtain ⟨before, after, -, -, htext⟩ := exists_eq_append_trim text
  exact ⟨before, after, htext.symm⟩

/-! ## Cutting at the end -/

/-- What is cut at the end of a text does not depend on what is in front of it, if some of it stays. -/
theorem rdropWhile_append_of_ne_nil (p : Char → Bool) (before : Text) {text : Text}
    (h : text.rdropWhile p ≠ []) : (before ++ text).rdropWhile p = before ++ text.rdropWhile p := by
  have hne : (text.reverse.dropWhile p).isEmpty = false := by
    simpa [List.rdropWhile] using h
  rw [List.rdropWhile, List.reverse_append, List.dropWhile_append, hne, if_neg Bool.false_ne_true,
    List.reverse_append, List.reverse_reverse, List.rdropWhile]

/-- A text whose last character stays is not cut at its end, whatever is cut behind it. -/
theorem rdropWhile_append_of_last {p : Char → Bool} {text : Text}
    (h : ∀ c ∈ text.getLast?, p c = false) (after : Text) :
    (text ++ after).rdropWhile p = text ++ after.rdropWhile p := by
  by_cases hafter : after.rdropWhile p = []
  · have hall : ∀ c ∈ after, p c = true := List.rdropWhile_eq_nil_iff.1 hafter
    have hself : text.rdropWhile p = text := by
      rw [List.rdropWhile_eq_self_iff]
      intro hne hlast
      rw [h _ (List.getLast?_eq_some_getLast hne)] at hlast
      cases hlast
    have hreverse : ∀ c ∈ after.reverse, p c = true := fun c hc ↦ hall c (List.mem_reverse.1 hc)
    rw [hafter, List.append_nil, List.rdropWhile, List.reverse_append,
      List.dropWhile_append_of_pos hreverse, ← List.rdropWhile, hself]
  · exact rdropWhile_append_of_ne_nil p text hafter

end CodeRepair.Text
