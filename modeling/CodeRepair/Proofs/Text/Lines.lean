import CodeRepair.Proofs.Text.Decoding
import CodeRepair.Text.Line

/-!
# Lines of decoded bytes that are cut

Bytes that are cut somewhere decode to the same lines up to the one that holds the cut.  What is left of
that line is a beginning of it, up to a replacement character for a character that was cut apart; only
if the cut is between a carriage return and its line feed, one more character is left than the line
has.
-/

namespace CodeRepair.Text

/-- How what is left of a line is related to the line. -/
inductive CutLine : Text → Text → Prop
  | shorter (text more : Text) : CutLine text (text ++ more)
  | broken (text : Text) (c : Char) (more : Text) : CutLine (text ++ [replacement]) (text ++ c :: more)
  | returned (text : Text) : CutLine (text ++ ['\r']) text

theorem lines_of_not_mem {text : Text} (h : '\n' ∉ text) (hne : text ≠ []) : lines text = [text] := by
  simp [lines, pieces_of_not_mem h, hne]

/-- What stands before the last line gives the same lines whatever comes behind it. -/
theorem exists_last_line (text : Text) :
    ∃ front line done, text = front ++ line ∧ '\n' ∉ line ∧
      ∀ more, lines (front ++ more) = done ++ lines more := by
  by_cases hfeed : '\n' ∈ text
  · obtain ⟨after, before, htext, hafter⟩ :=
      List.eq_append_cons_of_mem (List.mem_reverse.2 hfeed)
    refine ⟨before.reverse ++ ['\n'], after.reverse, (pieces '\n' before.reverse).map dropReturn,
      ?_, ?_, fun more ↦ ?_⟩
    · rw [← List.reverse_cons, ← List.reverse_append, ← htext, List.reverse_reverse]
    · rwa [List.mem_reverse]
    · rw [← List.append_cons, lines_append_feed]
  · exact ⟨[], text, [], rfl, hfeed, fun more ↦ rfl⟩

/-- A line that goes on, or the end of the text. -/
theorem cutLine_append {text : Text} (h : '\n' ∉ text) (rest : Text) :
    text ++ rest = [] ∨
      ∃ line others, lines (text ++ rest) = line :: others ∧ CutLine text line := by
  by_cases hfeed : '\n' ∈ rest
  · obtain ⟨part, others, rfl, hpart⟩ := List.eq_append_cons_of_mem hfeed
    have hline : '\n' ∉ text ++ part := by simp [h, hpart]
    refine .inr ⟨dropReturn (text ++ part), lines others, ?_, ?_⟩
    · rw [← List.append_assoc, lines_append_feed, pieces_of_not_mem hline]
      rfl
    · rcases eq_dropReturn_append (text ++ part) with heq | heq
      · rw [← heq]
        exact .shorter text part
      · -- The carriage return that is dropped belongs to `text` only if the cut is right behind it.
        rcases List.eq_nil_or_concat part with rfl | ⟨part, c, rfl⟩
        · rw [List.append_nil] at heq ⊢
          generalize dropReturn text = line at heq ⊢
          exact heq ▸ .returned line
        · rw [List.concat_eq_append, ← List.append_assoc] at heq ⊢
          rw [← (List.append_inj' heq rfl).1]
          exact .shorter text part
  · by_cases hne : text ++ rest = []
    · exact .inl hne
    · have hline : '\n' ∉ text ++ rest := by simp [h, hfeed]
      exact .inr ⟨text ++ rest, [], lines_of_not_mem hline hne, .shorter text rest⟩

/-- A line that goes on with a character that was cut apart. -/
theorem cutLine_append_cons {text : Text} (h : '\n' ∉ text) {c : Char} (hfeed : c ≠ '\n')
    (hreturn : c ≠ '\r') (rest : Text) :
    ∃ line others, lines (text ++ c :: rest) = line :: others ∧
      CutLine (text ++ [replacement]) line := by
  have hline {part : Text} (hpart : '\n' ∉ part) : '\n' ∉ text ++ c :: part := by
    simp [h, hpart, hfeed.symm]
  by_cases hrest : '\n' ∈ rest
  · obtain ⟨part, others, rfl, hpart⟩ := List.eq_append_cons_of_mem hrest
    refine ⟨text ++ c :: dropReturn part, lines others, ?_, .broken text c _⟩
    rw [← List.cons_append, ← List.append_assoc, lines_append_feed, pieces_of_not_mem (hline hpart),
      ← dropReturn_append_cons text hreturn]
    rfl
  · have hne : text ++ c :: rest ≠ [] := List.append_ne_nil_of_right_ne_nil text (List.cons_ne_nil c rest)
    exact ⟨text ++ c :: rest, [], lines_of_not_mem (hline hrest) hne, .broken text c rest⟩

/-- The lines of the beginning of some bytes are lines of all of them, up to the last one, which may be
cut. -/
theorem lines_decodeLenient_append (first second : List UInt8) :
    ∃ done last, '\n' ∉ last ∧ lines (decodeLenient first) = done ++ lines last ∧
      (last = [] ∧ lines (decodeLenient (first ++ second)) = done ∨
        ∃ line others, lines (decodeLenient (first ++ second)) = done ++ line :: others ∧
          CutLine last line) := by
  rcases decodeLenient_append first second with hboth | ⟨text, c, more, hfirst, hboth, hc⟩
  · obtain ⟨front, last, done, hfirst, hlast, hdone⟩ := exists_last_line (decodeLenient first)
    refine ⟨done, last, hlast, by rw [hfirst, hdone], ?_⟩
    rw [hboth, hfirst, List.append_assoc, hdone]
    rcases cutLine_append hlast (decodeLenient second) with hnil | ⟨line, others, hlines, hcut⟩
    · left
      rw [hnil, lines_nil, List.append_nil]
      exact ⟨(List.append_eq_nil_iff.1 hnil).1, rfl⟩
    · exact .inr ⟨line, others, by rw [hlines], hcut⟩
  · obtain ⟨front, last, done, rfl, hlast, hdone⟩ := exists_last_line text
    have hfeed : c ≠ '\n' := by
      rintro rfl
      exact absurd hc (by decide)
    have hreturn : c ≠ '\r' := by
      rintro rfl
      exact absurd hc (by decide)
    obtain ⟨line, others, hlines, hcut⟩ := cutLine_append_cons hlast hfeed hreturn more
    refine ⟨done, last ++ [replacement], ?_, ?_, .inr ⟨line, others, ?_, hcut⟩⟩
    · simp [hlast, replacement]
    · rw [hfirst, List.append_assoc, hdone]
    · rw [hboth, List.append_assoc, hdone, hlines]

end CodeRepair.Text
