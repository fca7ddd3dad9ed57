import CodeRepair.Proofs.Execution.Collected
import CodeRepair.Proofs.Finding.Report
import CodeRepair.Proofs.Text.Lines

/-!
# Findings under an output limit

When only the beginning of a tool's output is kept, the findings in it are those of the whole output,
up to the last one, of which the end of the message may be missing.  No finding comes up that the whole
output does not have, since a finding in the beginning of a line stays the leftmost one in the line.
-/

namespace CodeRepair

open Execution

namespace Record

/-! ## Findings that go on -/

/-- A finding goes on with its line. -/
theorem Found.append {line path : Text} {parts : Parts} (h : Found line path parts) (more : Text) :
    Found (line ++ more) path { parts with rest := parts.rest ++ more } where
  valid := h.valid.withRest _
  clear := h.clear
  line_eq := by rw [h.line_eq, List.append_assoc, Parts.text_append]

/-- All in front of a message ends in a space, so any other character at the end of the line belongs to
the message. -/
theorem Found.exists_rest {line path : Text} {parts : Parts} {c : Char}
    (h : Found (line ++ [c]) path parts) (hc : c ≠ ' ') :
    ∃ rest, parts.rest = rest ++ [c] ∧ Found line path { parts with rest := rest } := by
  have hline := h.line_eq
  rcases List.eq_nil_or_concat parts.rest with hrest | ⟨rest, last, hrest⟩
  · have hspace : parts.text = (':' :: (parts.line ++ ':' :: (parts.column ++ ':' :: ' ' ::
        (parts.code ++ [':'])))) ++ [' '] := by
      simp [Parts.text, hrest]
    rw [hspace, ← List.append_assoc] at hline
    exact absurd (List.cons.inj (List.append_inj' hline rfl).2).1 hc
  · rw [List.concat_eq_append] at hrest
    have htext : parts.text = { parts with rest := rest : Parts }.text ++ [last] := by
      rw [Parts.text_append, ← hrest]
    rw [htext, ← List.append_assoc] at hline
    obtain ⟨hfront, hlast⟩ := List.append_inj' hline rfl
    rw [← (List.cons.inj hlast).1] at hrest
    exact ⟨rest, hrest, h.valid.withRest rest, h.clear, hfront⟩

/-! ## What is left of a line -/

/-- How a finding in what is left of a line compares to the finding in the line: the message is the
same, or it comes from a beginning of the message in the line, perhaps with a replacement character
behind it. -/
structure Shortened (record : Record) (text : Text) (whole : Record) : Prop where
  line : record.line = whole.line
  column : record.column = whole.column
  code : record.code = whole.code
  message : record.message = whole.message ∨ ∃ path parts front last,
    Found text path parts ∧ front <+: parts.rest ∧ front ≠ parts.rest ∧
      (last = [] ∨ last = [Text.replacement]) ∧ record.message = Text.trim (front ++ last)

theorem Shortened.refl (record : Record) (line : Text) : record.Shortened line record :=
  ⟨rfl, rfl, rfl, .inl rfl⟩

theorem Parts.message_record {parts : Parts} (h : '\n' ∉ parts.rest) :
    parts.record.message = Text.trim parts.rest := by
  rw [Parts.record, Text.takeWhile_of_not_mem h]

theorem Found.feed_not_mem {line path : Text} {parts : Parts} (h : Found line path parts)
    (hline : '\n' ∉ line) : '\n' ∉ parts.rest := by
  intro hfeed
  rw [h.line_eq] at hline
  exact hline (by simp [Parts.text, hfeed])

/-- A finding in what is left of a line is the finding in the line, at most with a shorter message. -/
theorem exists_shortened {cut line : Text} (h : Text.CutLine cut line) (hfeed : '\n' ∉ cut)
    {record : Record} (hrecord : first? cut = some record) :
    ∃ whole, first? line = some whole ∧ record.Shortened line whole := by
  obtain ⟨path, parts, hfound, rfl⟩ := first?_eq_some_iff.1 hrecord
  have hmessage := Parts.message_record (hfound.feed_not_mem hfeed)
  cases h with
  | shorter _ more =>
    have hmore := hfound.append more
    refine ⟨_, first?_eq_some_iff.2 ⟨path, _, hmore, rfl⟩, rfl, rfl, rfl, ?_⟩
    by_cases hnil : more = []
    · rw [hnil, List.append_nil]
      exact .inl rfl
    · refine .inr ⟨path, { parts with rest := parts.rest ++ more }, parts.rest, [], hmore,
        List.prefix_append _ more, ?_, .inl rfl, ?_⟩
      · simpa using hnil
      · rw [hmessage, List.append_nil]
  | broken text c more =>
    obtain ⟨rest, hrest, hfront⟩ := hfound.exists_rest (by decide)
    have hmore := hfront.append (c :: more)
    refine ⟨_, first?_eq_some_iff.2 ⟨path, _, hmore, rfl⟩, rfl, rfl, rfl, .inr ?_⟩
    refine ⟨path, { parts with rest := rest ++ c :: more }, rest, [Text.replacement], hmore,
      List.prefix_append rest _, ?_, .inr rfl, ?_⟩
    · simp
    · rw [hmessage, hrest]
  | returned => exact ⟨_, (first?_append_return line).symm.trans hrecord, .refl _ line⟩

/-! ## What is left of a text -/

/-- The finding in a line, with the line. -/
def locate (line : Text) : Option (Text × Record) :=
  (first? line).map fun record ↦ (line, record)

/-- The findings in a text, each with its line. -/
def found (text : Text) : List (Text × Record) :=
  (Text.lines text).filterMap locate

theorem parse_eq_map_found (text : Text) : parse text = (found text).map Prod.snd := by
  rw [parse_eq_filterMap, found, List.map_filterMap]
  refine List.filterMap_congr fun line _ ↦ ?_
  rw [locate, Option.map_map]
  exact Option.map_id'.symm

/-- How the findings that are read from what is left of a text compare to those in the text: they are
the first ones, and only the last of them may be shortened. -/
structure LeftOf (records : List Record) (text : Text) : Prop where
  length_le : records.length ≤ (parse text).length
  dropLast_eq : records.dropLast = (parse text).take (records.length - 1)
  last : ∀ record ∈ records.getLast?, ∃ line whole, (parse text)[records.length - 1]? = some whole ∧
    (found text)[records.length - 1]? = some (line, whole) ∧ record.Shortened line whole

theorem leftOf_nil (text : Text) : LeftOf [] text :=
  ⟨Nat.zero_le _, rfl, nofun⟩

theorem leftOf_concat {text line : Text} {before after : List (Text × Record)} {record whole : Record}
    (htext : found text = before ++ (line, whole) :: after) (h : record.Shortened line whole) :
    LeftOf (before.map Prod.snd ++ [record]) text := by
  have hparse : parse text = before.map Prod.snd ++ whole :: after.map Prod.snd := by
    rw [parse_eq_map_found, htext, List.map_append, List.map_cons]
  have hlength : (before.map Prod.snd ++ [record]).length - 1 = before.length := by simp
  refine ⟨?_, ?_, ?_⟩
  · simp [hparse]
  · rw [hlength, hparse, List.dropLast_concat]
    exact (List.take_left' (List.length_map _)).symm
  · intro last hlast
    obtain rfl : record = last := by simpa using hlast
    refine ⟨line, whole, ?_, ?_, h⟩
    · simp [hparse]
    · simp [htext]

/-- The findings of the first lines are not shortened at all. -/
theorem leftOf_append {text : Text} {before after : List (Text × Record)}
    (htext : found text = before ++ after) : LeftOf (before.map Prod.snd) text := by
  rcases List.eq_nil_or_concat before with rfl | ⟨before, ⟨line, record⟩, rfl⟩
  · exact leftOf_nil text
  · rw [List.concat_eq_append, List.append_assoc] at htext
    rw [List.concat_eq_append, List.map_append]
    exact leftOf_concat htext (.refl record line)

/-- What is read of the beginning of some bytes. -/
theorem leftOf_decodeLenient (first second : List UInt8) :
    LeftOf (parse (Text.decodeLenient first)) (Text.decodeLenient (first ++ second)) := by
  obtain ⟨done, last, hfeed, hfirst, hboth⟩ := Text.lines_decodeLenient_append first second
  rw [parse_eq_map_found, found, hfirst, List.filterMap_append]
  cases hlast : first? last with
  | none =>
    -- The line may still hold a finding as a whole, but none of what was read stands in it.
    have hnone : (Text.lines last).filterMap locate = [] := by
      by_cases hnil : last = []
      · rw [hnil, Text.lines_nil, List.filterMap_nil]
      · rw [Text.lines_of_not_mem hfeed hnil]
        simp [locate, hlast]
    rw [hnone, List.append_nil]
    rcases hboth with ⟨-, hboth⟩ | ⟨line, others, hboth, -⟩
    · have htext : found (Text.decodeLenient (first ++ second)) = done.filterMap locate ++ [] := by
        rw [found, hboth, List.append_nil]
      exact leftOf_append htext
    · exact leftOf_append (by rw [found, hboth, List.filterMap_append])
  | some record =>
    have hne : last ≠ [] := by
      rintro rfl
      cases hlast
    obtain ⟨line, others, hboth, hcut⟩ := hboth.resolve_left fun h ↦ hne h.1
    obtain ⟨whole, hwhole, hshortened⟩ := exists_shortened hcut hfeed hlast
    have htext : found (Text.decodeLenient (first ++ second)) =
        done.filterMap locate ++ (line, whole) :: others.filterMap locate := by
      rw [found, hboth, List.filterMap_append, List.filterMap_cons_some]
      rw [locate, hwhole, Option.map_some]
    have hrecord : (Text.lines last).filterMap locate = [(last, record)] := by
      rw [Text.lines_of_not_mem hfeed hne]
      simp [locate, hlast]
    rw [hrecord, List.map_append]
    exact leftOf_concat htext hshortened

/-- An output limit does not bring up a finding or move one: whatever parts the output comes in, and
whatever lines of error output come between them, the findings in what is collected of it are the
first ones of the whole output, and only the last of them may have lost the end of its message. -/
theorem leftOf_collect {before : List Event} (hbefore : ∀ event ∈ before, event.isTerminal = false)
    (limit : Nat) (code : Option Nat) (after : List Event) :
    ∃ collected, (collect limit (before ++ .completed code :: after)).2 = .ok collected ∧
      LeftOf (parse collected.output) (Text.decodeLenient (outputOf before)) := by
  rw [collect_completed hbefore]
  refine ⟨_, rfl, ?_⟩
  have hleft := leftOf_decodeLenient ((outputOf before).take limit) ((outputOf before).drop limit)
  rwa [List.take_append_drop] at hleft

/-- The limit cuts the last character of a message apart. -/
theorem leftOf_collect_broken :
    let before : List Event := [.output [97, 58, 49, 58, 50, 58, 32, 87, 48], .errorLine "e".toList,
      .output [49, 48, 50, 58, 32, 98, 0xC3, 0xA9, 10]]
    (∀ event ∈ before, event.isTerminal = false) ∧
      parse (Text.decodeLenient (outputOf before)) = [⟨1, 2, "W0102".toList, "bé".toList⟩] ∧
      ∃ collected, (collect 16 (before ++ .completed (some 1) :: [])).2 = .ok collected ∧
        parse collected.output = [⟨1, 2, "W0102".toList, ['b', Text.replacement]⟩] ∧
        LeftOf (parse collected.output) (Text.decodeLenient (outputOf before)) := by
  intro before
  have hbefore : ∀ event ∈ before, event.isTerminal = false := by decide
  obtain ⟨collected, hcollected, hleft⟩ := leftOf_collect hbefore 16 (some 1) []
  refine ⟨hbefore, by decide +kernel, collected, hcollected, ?_, hleft⟩
  obtain rfl := Except.ok.inj hcollected
  decide +kernel

end Record

end CodeRepair
