import CodeRepair.Text.Utf8
import Mathlib.Tactic.Common

/-!
# Slices

A position in a text is a number of bytes.  A text has a slice between two positions only if they are in
order, in the text, and not inside a character.
-/

namespace CodeRepair.Text

/-- The number of bytes of a text. -/
def size (text : Text) : Nat :=
  (encode text).length

@[simp]
theorem size_nil : size [] = 0 := rfl

@[simp]
theorem size_cons (c : Char) (text : Text) : size (c :: text) = c.utf8Size + size text := by
  simp [size, encode]

@[simp]
theorem size_append (text more : Text) : size (text ++ more) = size text + size more := by
  simp [size, encode]

/-- What stands before and after a position, if it is not inside a character or behind the text. -/
def splitAt? : Text → Nat → Option (Text × Text)
  | text, 0 => some ([], text)
  | [], _ + 1 => none
  | c :: text, position + 1 =>
    if c.utf8Size ≤ position + 1 then
      (splitAt? text (position + 1 - c.utf8Size)).map fun parts ↦ (c :: parts.1, parts.2)
    else none

/-- What stands between two positions. -/
def slice? (text : Text) (start stop : Nat) : Option Text := do
  let (front, _) ← splitAt? text stop
  let (_, part) ← splitAt? front start
  return part

theorem size_eq_zero_iff {text : Text} : size text = 0 ↔ text = [] := by
  cases text with
  | nil => simp
  | cons c text => simp [Nat.ne_of_gt c.utf8Size_pos]

theorem splitAt?_zero_eq_some_iff {text before after : Text} :
    splitAt? text 0 = some (before, after) ↔ text = before ++ after ∧ size before = 0 := by
  have hzero : splitAt? text 0 = some ([], text) := by cases text <;> rfl
  rw [hzero, size_eq_zero_iff, Option.some.injEq, Prod.mk.injEq]
  constructor
  · rintro ⟨rfl, rfl⟩
    exact ⟨rfl, rfl⟩
  · rintro ⟨rfl, rfl⟩
    exact ⟨rfl, rfl⟩

/-- The text is divided where what stands before is as long as the position says. -/
theorem splitAt?_eq_some_iff {text before after : Text} {position : Nat} :
    splitAt? text position = some (before, after) ↔
      text = before ++ after ∧ size before = position := by
  induction text generalizing before position with
  | nil =>
    cases position with
    | zero => exact splitAt?_zero_eq_some_iff
    | succ position => cases before <;> simp [splitAt?]
  | cons c text ih =>
    cases position with
    | zero => exact splitAt?_zero_eq_some_iff
    | succ position =>
      rw [splitAt?]
      constructor
      · intro h
        split at h
        · obtain ⟨⟨front, back⟩, hparts, heq⟩ := Option.map_eq_some_iff.1 h
          cases heq
          obtain ⟨htext, hsize⟩ := ih.1 hparts
          exact ⟨by rw [htext, List.cons_append], by rw [size_cons, hsize]; omega⟩
        · cases h
      · rintro ⟨htext, hsize⟩
        cases before with
        | nil => cases hsize
        | cons d before =>
          obtain ⟨rfl, hlater⟩ := List.cons.inj htext
          rw [size_cons] at hsize
          rw [if_pos (by omega), Option.map_eq_some_iff]
          exact ⟨(before, after), ih.2 ⟨hlater, by omega⟩, rfl⟩

theorem slice?_eq_some_iff {text part : Text} {start stop : Nat} :
    slice? text start stop = some part ↔ ∃ before after, text = before ++ part ++ after ∧
      size before = start ∧ size (before ++ part) = stop := by
  simp only [slice?, bind, Option.bind_eq_some_iff, Prod.exists, splitAt?_eq_some_iff, pure,
    Option.some.injEq]
  constructor
  · rintro ⟨_, after, ⟨rfl, hstop⟩, before, _, ⟨rfl, hstart⟩, rfl⟩
    exact ⟨before, after, rfl, hstart, hstop⟩
  · rintro ⟨before, after, rfl, hstart, hstop⟩
    exact ⟨_, after, ⟨rfl, hstop⟩, before, part, ⟨rfl, hstart⟩, rfl⟩

end CodeRepair.Text
