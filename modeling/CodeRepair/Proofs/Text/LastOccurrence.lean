import CodeRepair.Text.Occurrence
import Mathlib.Data.List.Infix
import Mathlib.Tactic.Common

/-!
# The last occurrence of a text

What follows the last occurrence of a text is found from the back, so it depends on the text around
an occurrence only where another occurrence could come in: not on anything in front of it, and
not on characters that the sought text does not have.
-/

namespace CodeRepair.Text

/-- Characters that a text does not have do not continue a part of it. -/
theorem dropHead?_append_of_not_mem {head after : Text} (h : ∀ c ∈ head, c ∉ after) (text : Text) :
    dropHead? head (text ++ after) = (dropHead? head text).map (· ++ after) := by
  induction head generalizing text with
  | nil => rfl
  | cons c head ih =>
    cases text with
    | nil =>
      have hc : c ∉ after := h c List.mem_cons_self
      cases after with
      | nil => rfl
      | cons d after =>
        have hne : c ≠ d := fun heq ↦ hc (heq ▸ List.mem_cons_self)
        simp [dropHead?, hne]
    | cons d text =>
      have hhead : ∀ c ∈ head, c ∉ after := fun c hc ↦ h c (List.mem_cons_of_mem _ hc)
      rw [List.cons_append, dropHead?, dropHead?]
      split
      · exact ih hhead text
      · rfl

/-! ## Steps from the back -/

theorem foldr_lastStep (sought text : Text) :
    text.foldr (lastStep sought) ([], dropHead? sought []) = (text, afterLast? sought text) := by
  induction text with
  | nil => rfl
  | cons c text ih => rw [List.foldr_cons, afterLast?, List.foldr_cons, ih]; rfl

theorem afterLast?_cons (sought : Text) (c : Char) (text : Text) :
    afterLast? sought (c :: text) =
      (afterLast? sought text).or (dropHead? sought (c :: text)) := by
  rw [afterLast?, List.foldr_cons, foldr_lastStep]
  rfl

theorem afterLast?_append_of_some {sought text rest : Text} (h : afterLast? sought text = some rest)
    (before : Text) : afterLast? sought (before ++ text) = some rest := by
  induction before with
  | nil => exact h
  | cons c before ih => rw [List.cons_append, afterLast?_cons, ih, Option.some_or]

/-- No occurrence begins with another character than the sought text does. -/
theorem afterLast?_append_of_head_not_mem {c : Char} {before : Text} (h : c ∉ before)
    (sought text : Text) :
    afterLast? (c :: sought) (before ++ text) = afterLast? (c :: sought) text := by
  induction before with
  | nil => rfl
  | cons d before ih =>
    rw [List.mem_cons, not_or] at h
    rw [List.cons_append, afterLast?_cons, ih h.2, dropHead?, if_neg h.1, Option.or_none]

theorem afterLast?_append_of_not_mem {sought after : Text} (hne : sought ≠ [])
    (h : ∀ c ∈ sought, c ∉ after) (text : Text) :
    afterLast? sought (text ++ after) = (afterLast? sought text).map (· ++ after) := by
  obtain ⟨c, sought, rfl⟩ := List.exists_cons_of_ne_nil hne
  induction text with
  | nil =>
    have hafter := afterLast?_append_of_head_not_mem (h c List.mem_cons_self) sought []
    rwa [List.append_nil] at hafter
  | cons d text ih =>
    rw [List.cons_append, afterLast?_cons, ih, ← List.cons_append, dropHead?_append_of_not_mem h,
      afterLast?_cons]
    cases afterLast? (c :: sought) text <;> rfl

/-- What follows an occurrence is what follows the last one, unless there is one after it.  The
sought text does not overlap with itself when its first character does not come again. -/
theorem afterLast?_append_sought {c : Char} {sought : Text} (h : c ∉ sought)
    (before text : Text) :
    afterLast? (c :: sought) (before ++ (c :: sought) ++ text) =
      some ((afterLast? (c :: sought) text).getD text) := by
  rw [List.append_assoc]
  refine afterLast?_append_of_some ?_ before
  have hhead : dropHead? (c :: sought) (c :: (sought ++ text)) = some text :=
    dropHead?_eq_some_iff.2 rfl
  rw [List.cons_append, afterLast?_cons, afterLast?_append_of_head_not_mem h, hhead]
  cases afterLast? (c :: sought) text <;> rfl

/-! ## Whether there is an occurrence -/

theorem isPrefix_of_dropHead? {head text rest : Text} (h : dropHead? head text = some rest) :
    head <+: text :=
  ⟨rest, (dropHead?_eq_some_iff.1 h).symm⟩

theorem afterLast?_eq_none_iff {sought text : Text} :
    afterLast? sought text = none ↔ ¬sought <:+: text := by
  induction text with
  | nil => cases sought <;> simp [afterLast?, dropHead?]
  | cons c text ih =>
    rw [afterLast?_cons, Option.or_eq_none_iff, ih, List.infix_cons_iff, not_or, and_comm]
    refine and_congr_left fun _ ↦ ?_
    constructor
    · rintro h ⟨rest, hrest⟩
      rw [dropHead?_eq_some_iff.2 hrest.symm] at h
      cases h
    · intro h
      cases hdrop : dropHead? sought (c :: text) with
      | none => rfl
      | some rest => exact absurd (isPrefix_of_dropHead? hdrop) h

theorem exists_eq_append_of_afterLast? {sought text rest : Text}
    (h : afterLast? sought text = some rest) : ∃ before, text = before ++ sought ++ rest := by
  induction text with
  | nil => exact ⟨[], dropHead?_eq_some_iff.1 h⟩
  | cons c text ih =>
    rw [afterLast?_cons] at h
    cases hlater : afterLast? sought text with
    | some later =>
      rw [hlater, Option.some_or] at h
      obtain ⟨before, hbefore⟩ := ih (hlater.trans h)
      exact ⟨c :: before, by rw [hbefore, List.cons_append, List.cons_append]⟩
    | none =>
      rw [hlater, Option.none_or] at h
      exact ⟨[], dropHead?_eq_some_iff.1 h⟩

/-- Nothing that follows the last occurrence holds another one. -/
theorem not_isInfix_of_afterLast? {sought text rest : Text} (hne : sought ≠ [])
    (h : afterLast? sought text = some rest) : ¬sought <:+: rest := by
  induction text with
  | nil =>
    obtain ⟨c, sought, rfl⟩ := List.exists_cons_of_ne_nil hne
    cases h
  | cons c text ih =>
    rw [afterLast?_cons] at h
    cases hlater : afterLast? sought text with
    | some later =>
      rw [hlater] at h ih
      exact ih h
    | none =>
      rw [hlater, Option.none_or, dropHead?_eq_some_iff] at h
      obtain ⟨d, sought, rfl⟩ := List.exists_cons_of_ne_nil hne
      obtain ⟨-, htext : text = sought ++ rest⟩ := List.cons.inj h
      have hsuffix : rest <:+: text := ⟨sought, [], by rw [htext, List.append_nil]⟩
      exact fun hoccurs ↦ afterLast?_eq_none_iff.1 hlater (hoccurs.trans hsuffix)

end CodeRepair.Text
