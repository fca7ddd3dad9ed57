import CodeRepair.Text.Basic

/-!
# Lines

A line ends at a line feed; a carriage return directly before that line feed belongs to the line
end.  What follows the last line feed is a line of its own unless it is empty, and a carriage
return at its end stays.
-/

namespace CodeRepair.Text

/-- A text without one carriage return at its end. -/
def dropReturn (text : Text) : Text :=
  if text.getLast? = some '\r' then text.dropLast else text

/-- The lines of a text, without their ends. -/
def lines (text : Text) : List Text :=
  let parts := pieces '\n' text
  parts.dropLast.map dropReturn ++ parts.getLast?.toList.filter fun last ↦ !last.isEmpty

@[simp]
theorem lines_nil : lines [] = [] := rfl

/-- A line feed divides the lines before it from those behind it. -/
theorem lines_append_feed (text rest : Text) :
    lines (text ++ '\n' :: rest) = (pieces '\n' text).map dropReturn ++ lines rest := by
  have hrest := pieces_ne_nil '\n' rest
  have hlast : ((pieces '\n' text) ++ (pieces '\n' rest)).getLast? = (pieces '\n' rest).getLast? := by
    rw [List.getLast?_append, List.getLast?_eq_some_getLast hrest]
    rfl
  simp only [lines, pieces_append_cons, List.dropLast_append_of_ne_nil hrest, hlast,
    List.map_append, List.append_assoc]

theorem dropReturn_append_return (text : Text) : dropReturn (text ++ ['\r']) = text := by
  simp [dropReturn]

theorem dropReturn_append_of_ne (text : Text) {c : Char} (h : c ≠ '\r') :
    dropReturn (text ++ [c]) = text ++ [c] := by
  simp [dropReturn, h]

theorem dropReturn_append_cons (before : Text) {c : Char} (hc : c ≠ '\r') (text : Text) :
    dropReturn (before ++ c :: text) = before ++ c :: dropReturn text := by
  rcases List.eq_nil_or_concat text with rfl | ⟨front, last, rfl⟩
  · exact dropReturn_append_of_ne before hc
  · have hgroup : before ++ c :: (front.concat last) = (before ++ c :: front) ++ [last] := by simp
    rw [hgroup, List.concat_eq_append]
    by_cases hlast : last = '\r'
    · rw [hlast, dropReturn_append_return, dropReturn_append_return]
    · rw [dropReturn_append_of_ne _ hlast, dropReturn_append_of_ne _ hlast]
      simp

/-- At most one carriage return is dropped. -/
theorem eq_dropReturn_append (text : Text) :
    text = dropReturn text ∨ text = dropReturn text ++ ['\r'] := by
  by_cases h : text.getLast? = some '\r'
  · right
    obtain ⟨before, rfl⟩ := List.getLast?_eq_some_iff.1 h
    rw [dropReturn_append_return]
  · left
    rw [dropReturn, if_neg h]

theorem mem_of_mem_dropReturn {c : Char} {text : Text} (h : c ∈ dropReturn text) : c ∈ text := by
  rcases eq_dropReturn_append text with htext | htext
  · rwa [htext]
  · rw [htext]
    exact List.mem_append_left _ h

theorem mem_of_mem_lines {c : Char} {text line : Text} (hline : line ∈ lines text)
    (hc : c ∈ line) : c ∈ text := by
  rw [lines, List.mem_append] at hline
  rcases hline with hline | hline
  · obtain ⟨piece, hpiece, rfl⟩ := List.mem_map.1 hline
    exact mem_of_mem_pieces (List.dropLast_subset _ hpiece) (mem_of_mem_dropReturn hc)
  · have hlast := (List.mem_filter.1 hline).1
    rw [Option.mem_toList] at hlast
    exact mem_of_mem_pieces (List.mem_of_getLast? hlast) hc

end CodeRepair.Text
