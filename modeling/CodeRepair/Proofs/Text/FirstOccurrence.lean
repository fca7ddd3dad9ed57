import CodeRepair.Text.Occurrence
import Mathlib.Data.List.Infix
import Mathlib.Tactic.Common

/-!
# The first occurrence of a text

A text is divided at the first occurrence of another one: no occurrence begins further to the left.  The
division is found from the back, where an occurrence that begins at a character wins against those
behind it.
-/

namespace CodeRepair.Text

/-- A text divided at the first occurrence of another one. -/
structure IsFirst (sought text before after : Text) : Prop where
  text_eq : text = before ++ sought ++ after
  leftmost : ∀ front back, text = front ++ sought ++ back → before.length ≤ front.length

namespace IsFirst

variable {sought text before after : Text}

theorem isInfix (h : IsFirst sought text before after) : sought <:+: text :=
  ⟨before, after, h.text_eq.symm⟩

theorem unique {front back : Text} (h : IsFirst sought text before after)
    (hother : IsFirst sought text front back) : before = front ∧ after = back := by
  have hlength : before.length = front.length :=
    Nat.le_antisymm (h.leftmost front back hother.text_eq)
      (hother.leftmost before after h.text_eq)
  have htext := h.text_eq.symm.trans hother.text_eq
  rw [List.append_assoc, List.append_assoc] at htext
  obtain ⟨hfront, hback⟩ := List.append_inj htext hlength
  exact ⟨hfront, List.append_cancel_left hback⟩

theorem of_append {front : Text} (h : IsFirst sought (front ++ text) (front ++ before) after) :
    IsFirst sought text before after where
  text_eq := by
    have htext := h.text_eq
    rw [List.append_assoc, List.append_assoc] at htext
    rw [List.append_cancel_left htext, List.append_assoc]
  leftmost other back htext := by
    have hle := h.leftmost (front ++ other) back (by rw [htext]; simp only [List.append_assoc])
    simpa using hle

end IsFirst

/-! ## Steps from the back -/

theorem foldr_firstStep (sought text : Text) :
    text.foldr (firstStep sought) ([], (dropHead? sought []).map fun rest ↦ ([], rest)) =
      (text, splitFirst? sought text) := by
  induction text with
  | nil => rfl
  | cons c text ih =>
    rw [List.foldr_cons, splitFirst?, List.foldr_cons, ih]
    simp only [firstStep]
    split <;> rfl

theorem splitFirst?_of_dropHead? {sought text rest : Text} (h : dropHead? sought text = some rest) :
    splitFirst? sought text = some ([], rest) := by
  cases text with
  | nil =>
    rw [splitFirst?, List.foldr_nil, h]
    rfl
  | cons c text => rw [splitFirst?, List.foldr_cons, foldr_firstStep, firstStep, h]

theorem splitFirst?_cons_of_none {sought : Text} {c : Char} {text : Text}
    (h : dropHead? sought (c :: text) = none) :
    splitFirst? sought (c :: text) =
      (splitFirst? sought text).map fun parts ↦ (c :: parts.1, parts.2) := by
  rw [splitFirst?, List.foldr_cons, foldr_firstStep, firstStep, h]

/-! ## Where the division is -/

theorem isFirst_nil {sought text rest : Text} (h : dropHead? sought text = some rest) :
    IsFirst sought text [] rest where
  text_eq := dropHead?_eq_some_iff.1 h
  leftmost _ _ _ := Nat.zero_le _

theorem IsFirst.cons {sought text before after : Text} {c : Char}
    (h : IsFirst sought text before after) (hnone : dropHead? sought (c :: text) = none) :
    IsFirst sought (c :: text) (c :: before) after where
  text_eq := by rw [h.text_eq, List.cons_append, List.cons_append]
  leftmost front back htext := by
    cases front with
    | nil =>
      rw [List.nil_append, ← dropHead?_eq_some_iff, hnone] at htext
      cases htext
    | cons d front =>
      have hle := h.leftmost front back (List.cons.inj htext).2
      exact Nat.succ_le_succ hle

theorem isFirst_of_splitFirst? {sought text before after : Text}
    (h : splitFirst? sought text = some (before, after)) : IsFirst sought text before after := by
  induction text generalizing before with
  | nil =>
    obtain ⟨rest, hrest, heq⟩ := Option.map_eq_some_iff.1 h
    cases heq
    exact isFirst_nil hrest
  | cons c text ih =>
    cases hdrop : dropHead? sought (c :: text) with
    | some rest =>
      rw [splitFirst?_of_dropHead? hdrop] at h
      cases h
      exact isFirst_nil hdrop
    | none =>
      rw [splitFirst?_cons_of_none hdrop, Option.map_eq_some_iff] at h
      obtain ⟨⟨before, after⟩, hparts, heq⟩ := h
      cases heq
      exact (ih hparts).cons hdrop

theorem splitFirst?_eq_none_iff {sought text : Text} :
    splitFirst? sought text = none ↔ ¬sought <:+: text := by
  constructor
  · intro h hinfix
    induction text with
    | nil =>
      obtain rfl : sought = [] := List.infix_nil.1 hinfix
      cases h
    | cons c text ih =>
      cases hdrop : dropHead? sought (c :: text) with
      | some rest =>
        rw [splitFirst?_of_dropHead? hdrop] at h
        cases h
      | none =>
        rw [splitFirst?_cons_of_none hdrop, Option.map_eq_none_iff] at h
        rcases List.infix_cons_iff.1 hinfix with ⟨rest, hrest⟩ | hlater
        · rw [dropHead?_eq_some_iff.2 hrest.symm] at hdrop
          cases hdrop
        · exact ih h hlater
  · intro hinfix
    cases h : splitFirst? sought text with
    | none => rfl
    | some parts => exact absurd (isFirst_of_splitFirst? h).isInfix hinfix

/-- A text is divided where the other one first occurs, whenever it occurs. -/
theorem splitFirst?_eq_some_iff {sought text before after : Text} :
    splitFirst? sought text = some (before, after) ↔ IsFirst sought text before after := by
  refine ⟨isFirst_of_splitFirst?, fun h ↦ ?_⟩
  cases hsplit : splitFirst? sought text with
  | none => exact absurd h.isInfix (splitFirst?_eq_none_iff.1 hsplit)
  | some parts =>
    obtain ⟨hbefore, hafter⟩ := (isFirst_of_splitFirst? hsplit).unique h
    rw [← hbefore, ← hafter]

end CodeRepair.Text
