import CodeRepair.Text.Basic

/-!
# White space

White space is what Unicode lists under the property `White_Space`.  Trimming a text removes white
space at its ends and nothing else.
-/

namespace CodeRepair.Text

/-- Whether Unicode lists a character under `White_Space`. -/
def isBlank (c : Char) : Bool :=
  let n := c.toNat
  (0x09 ≤ n && n ≤ 0x0D) || n == 0x20 || n == 0x85 || n == 0xA0 || n == 0x1680 ||
    (0x2000 ≤ n && n ≤ 0x200A) || n == 0x2028 || n == 0x2029 || n == 0x202F || n == 0x205F ||
    n == 0x3000

/-- A text without the white space at its beginning. -/
def trimLeft (text : Text) : Text :=
  text.dropWhile isBlank

/-- A text without the white space at its end. -/
def trimRight (text : Text) : Text :=
  (text.reverse.dropWhile isBlank).reverse

/-- A text without the white space at both ends. -/
def trim (text : Text) : Text :=
  trimRight (trimLeft text)

/-- Whether a text is white space only. -/
def isAllBlank (text : Text) : Bool :=
  text.all isBlank

/-- The blank characters of ASCII are white space. -/
theorem isBlank_of_isWhitespace {c : Char} (h : c.isWhitespace = true) : isBlank c = true := by
  simp only [Char.isWhitespace, Bool.or_eq_true, decide_eq_true_eq] at h
  rcases h with ((h | h) | h) | h <;> subst h <;> decide

theorem count_trimLeft {c : Char} (hc : isBlank c = false) (text : Text) :
    text.trimLeft.count c = text.count c := by
  have hblank : (text.takeWhile isBlank).count c = 0 :=
    List.count_eq_zero.2 fun hmem ↦ by
      rw [List.all_eq_true.1 List.all_takeWhile c hmem] at hc
      cases hc
  calc
    text.trimLeft.count c = (text.takeWhile isBlank).count c + text.trimLeft.count c := by
      rw [hblank, Nat.zero_add]
    _ = text.count c := by
      rw [trimLeft, ← List.count_append, List.takeWhile_append_dropWhile]

/-- Trimming takes no character away that is not white space. -/
theorem count_trim {c : Char} (hc : isBlank c = false) (text : Text) :
    text.trim.count c = text.count c := by
  have hright : text.trim = (trimLeft text.trimLeft.reverse).reverse := rfl
  rw [hright, List.count_reverse, count_trimLeft hc, List.count_reverse, count_trimLeft hc]

/-- White space at the end of a text is trimmed away. -/
theorem trim_append_blank (text : Text) {c : Char} (hc : isBlank c = true) :
    trim (text ++ [c]) = trim text := by
  have hleft : trimLeft (text ++ [c]) =
      if text.trimLeft.isEmpty then [] else text.trimLeft ++ [c] := by
    simp [trimLeft, List.dropWhile_append, hc]
  by_cases hempty : text.trimLeft.isEmpty = true
  · rw [trim, trim, hleft, if_pos hempty, List.isEmpty_iff.1 hempty]
  · rw [trim, trim, hleft, if_neg hempty]
    simp [trimRight, hc]

end CodeRepair.Text
