import CodeRepair.Answer
import CodeRepair.Proofs.Text.LastOccurrence
import CodeRepair.Proofs.Text.Trimming

/-!
# What is taken from a response

The text that is taken from a response has no marker in it and no white space at its ends.  Notes in
front of a marker and white space around the text behind it change nothing, so a text is lost from a
response only where it holds a marker itself.
-/

namespace CodeRepair.Answer

open Text

/-- A text as it comes out of a response: without a marker and without white space at its ends. -/
structure IsClean (text : Text) : Prop where
  unmarked : ¬marker <:+: text
  trimmed : IsTrimmed text

/-- A response gives a text back: behind any note and the marker stands the text, with white space
around it. -/
def Repeats (response text : Text) : Prop :=
  ∃ note before after, IsBlank before ∧ IsBlank after ∧
    response = note ++ marker ++ (before ++ text ++ after)

theorem marker_ne_nil : marker ≠ [] := by decide

theorem not_mem_of_isBlank {blank : Text} (h : IsBlank blank) : ∀ c ∈ marker, c ∉ blank := by
  intro c hc hblank
  have hmarker : marker.all (!isBlank ·) = true := by decide
  have hnot := List.all_eq_true.1 hmarker c hc
  rw [h c hblank] at hnot
  cases hnot

/-- White space around a text has no part in a marker. -/
theorem afterLast?_surrounded {before after : Text} (hbefore : IsBlank before)
    (hafter : IsBlank after) (text : Text) :
    afterLast? marker (before ++ text ++ after) = (afterLast? marker text).map (· ++ after) := by
  have hhead : 'O' ∉ before := not_mem_of_isBlank hbefore 'O' (by decide)
  rw [afterLast?_append_of_not_mem marker_ne_nil (not_mem_of_isBlank hafter)]
  exact congrArg (Option.map (· ++ after)) (afterLast?_append_of_head_not_mem hhead _ text)

theorem marker_isInfix_trim_iff {text : Text} : marker <:+: trim text ↔ marker <:+: text := by
  obtain ⟨before, after, hbefore, hafter, htext⟩ := exists_eq_append_trim text
  have hlast : afterLast? marker text = (afterLast? marker (trim text)).map (· ++ after) := by
    conv => lhs; rw [htext]
    exact afterLast?_surrounded hbefore hafter (trim text)
  rw [← not_iff_not, ← afterLast?_eq_none_iff, ← afterLast?_eq_none_iff, hlast,
    Option.map_eq_none_iff]

theorem isClean_extract (response : Text) : IsClean (extract response) where
  unmarked := by
    rw [extract, marker_isInfix_trim_iff]
    cases h : afterLast? marker response with
    | none => exact afterLast?_eq_none_iff.1 h
    | some rest => exact not_isInfix_of_afterLast? marker_ne_nil h
  trimmed := isTrimmed_trim _

theorem extract_of_unmarked {text : Text} (h : ¬marker <:+: text) : extract text = trim text := by
  rw [extract, afterLast?_eq_none_iff.2 h]
  rfl

theorem IsClean.extract_eq {text : Text} (h : IsClean text) : extract text = text := by
  rw [extract_of_unmarked h.unmarked, h.trimmed.trim_eq]

theorem extract_eq_trim_iff {text : Text} : extract text = trim text ↔ ¬marker <:+: text := by
  refine ⟨fun h hmarker ↦ ?_, extract_of_unmarked⟩
  have hclean := (isClean_extract text).unmarked
  rw [h, marker_isInfix_trim_iff] at hclean
  exact hclean hmarker

/-- A note with a marker behind it is left out as a whole. -/
theorem extract_append_marker (note text : Text) :
    extract (note ++ marker ++ text) = extract text := by
  have hlast : afterLast? marker (note ++ marker ++ text) =
      some ((afterLast? marker text).getD text) :=
    afterLast?_append_sought (by decide) note text
  rw [extract, hlast]
  rfl

theorem extract_surrounded {before after : Text} (hbefore : IsBlank before)
    (hafter : IsBlank after) (text : Text) : extract (before ++ text ++ after) = extract text := by
  rw [extract, afterLast?_surrounded hbefore hafter, extract]
  cases afterLast? marker text with
  | none => exact (trim_append_right _ hafter).trans (trim_append_left hbefore text)
  | some rest => exact trim_append_right rest hafter

theorem Repeats.extract_eq {response text : Text} (h : Repeats response text) :
    extract response = extract text := by
  obtain ⟨note, before, after, hbefore, hafter, rfl⟩ := h
  rw [extract_append_marker, extract_surrounded hbefore hafter]

/-- Behind its last marker a response has the answer. -/
theorem exists_answer {response : Text} (h : marker <:+: response) :
    ∃ note answer, response = note ++ marker ++ answer ∧ ¬marker <:+: answer ∧
      extract response = trim answer := by
  cases hlast : afterLast? marker response with
  | none => exact absurd h (afterLast?_eq_none_iff.1 hlast)
  | some answer =>
    obtain ⟨note, hnote⟩ := exists_eq_append_of_afterLast? hlast
    refine ⟨note, answer, hnote, not_isInfix_of_afterLast? marker_ne_nil hlast, ?_⟩
    rw [extract, hlast]
    rfl

theorem extract_isInfix (response : Text) : extract response <:+: response := by
  by_cases hmarker : marker <:+: response
  · obtain ⟨note, answer, hresponse, -, hanswer⟩ := exists_answer hmarker
    rw [hanswer]
    apply (trim_isInfix answer).trans
    exact ⟨note ++ marker, [], by rw [hresponse, List.append_nil]⟩
  · rw [extract_of_unmarked hmarker]
    exact trim_isInfix response

/-- What is taken from a response is a clean part of it, and nothing more can be taken from that.  It is
the text behind the last marker, or the whole response where there is none, without the white space
around it; and a text behind a marker is taken whole exactly when it has no marker itself. -/
theorem extract_isolates_answer (response : Text) :
    extract response <:+: response ∧ ¬marker <:+: extract response ∧
    IsTrimmed (extract response) ∧ extract (extract response) = extract response ∧
    (marker <:+: response ↔ ∃ note answer, response = note ++ marker ++ answer ∧
      ¬marker <:+: answer ∧ extract response = trim answer) ∧
    (∀ note answer : Text, extract (note ++ marker ++ answer) = trim answer ↔ ¬marker <:+: answer) ∧
    (extract response = trim response ↔ ¬marker <:+: response) := by
  have hclean := isClean_extract response
  refine ⟨extract_isInfix response, hclean.unmarked, hclean.trimmed, hclean.extract_eq,
    ⟨exists_answer, ?_⟩, fun note answer ↦ ?_, extract_eq_trim_iff⟩
  · rintro ⟨note, answer, hresponse, -, -⟩
    exact ⟨note, answer, hresponse.symm⟩
  · rw [extract_append_marker, extract_eq_trim_iff]

end CodeRepair.Answer
