import CodeRepair.Proofs.Finding.Pattern
import CodeRepair.Proofs.Text.Lines

/-!
# Findings line by line

No finding goes from one line into the next: a line feed cannot stand in front of its message, and the
message ends there.  A carriage return at the end of a line is trimmed away with the white space around
the message.  So it does not matter to which line a carriage return is counted, whether the last line
is ended, and whether the findings are sought in the whole text or in one line after the other.
-/

namespace CodeRepair.Record

/-! ## Characters of messages -/

/-- In front of a message there are digits, a capital letter, colons and spaces. -/
theorem Parts.Valid.not_mem_front {parts : Parts} (h : parts.Valid) {c : Char}
    (hdigit : Text.isDigit c = false) (hletter : c.isUpper = false) (hcolon : c ≠ ':')
    (hspace : c ≠ ' ') : c ∉ parts.front := by
  have hnumber {digits : Text} (hdigits : IsNumber digits) : c ∉ digits := by
    intro hmem
    rw [hdigits.isDigit c hmem] at hdigit
    cases hdigit
  have hcode : c ∉ parts.code := by
    obtain ⟨letter, digits, hcode, hupper, -, hdigits⟩ := h.code
    rw [hcode, List.mem_cons, not_or]
    refine ⟨?_, fun hmem ↦ ?_⟩
    · rintro rfl
      rw [hupper] at hletter
      cases hletter
    · rw [hdigits c hmem] at hdigit
      cases hdigit
  simp [Parts.front, hcolon, hspace, hnumber h.line, hnumber h.column, hcode]

/-! ## What is behind a line -/

section

variable {c : Char} {rest : Text} (hfront : ∀ parts : Parts, parts.Valid → c ∉ parts.front)
  (hmessage : ∀ text : Text, Text.trim ((text ++ c :: rest).takeWhile (· != '\n')) =
    Text.trim (text.takeWhile (· != '\n')))
include hfront hmessage

/-- What can stand in a message only, and is not read there, does not count at all. -/
theorem here?_append_cons (text : Text) : here? (text ++ c :: rest) = here? text := by
  have hrecord (parts : Parts) (more : Text) :
      { parts with rest := more ++ c :: rest : Parts }.record =
        { parts with rest := more : Parts }.record := by
    simp only [Parts.record, hmessage]
  refine Option.ext fun record ↦ ?_
  rw [here?_eq_some_iff, here?_eq_some_iff]
  constructor
  · rintro ⟨parts, hparts, htext, rfl⟩
    rw [parts.text_eq] at htext
    obtain ⟨more, hmore, hrest⟩ := Text.append_eq_append_cons (hfront parts hparts) htext.symm
    refine ⟨{ parts with rest := more }, hparts.withRest more, ?_, ?_⟩
    · rw [Parts.text_eq]
      exact hmore
    · rw [← hrecord parts more, ← hrest]
  · rintro ⟨parts, hparts, rfl, rfl⟩
    exact ⟨_, hparts.withRest _, parts.text_append _, (hrecord parts parts.rest).symm⟩

theorem first?_append_cons (text : Text) :
    first? (text ++ c :: rest) = (first? text).or (first? rest) := by
  induction text with
  | nil =>
    have hnone : here? (c :: rest) = none := here?_append_cons hfront hmessage []
    rw [List.nil_append, first?_cons_of_none hnone]
    rfl
  | cons d text ih =>
    have hhere : here? (d :: (text ++ c :: rest)) = here? (d :: text) :=
      here?_append_cons hfront hmessage (d :: text)
    rw [List.cons_append, first?, hhere, first?]
    cases here? (d :: text) with
    | some record => rfl
    | none => exact ih

end

/-- The leftmost finding is in the first line that has one. -/
theorem first?_append_feed (text rest : Text) :
    first? (text ++ '\n' :: rest) = (first? text).or (first? rest) := by
  refine first?_append_cons (fun parts hparts ↦ ?_) (fun text ↦ ?_) text
  · exact hparts.not_mem_front rfl rfl (by decide) (by decide)
  · rw [Text.takeWhile_append_cons]

theorem first?_append_return (text : Text) : first? (text ++ ['\r']) = first? text := by
  have hmessage (text : Text) : Text.trim ((text ++ ['\r']).takeWhile (· != '\n')) =
      Text.trim (text.takeWhile (· != '\n')) := by
    by_cases hfeed : '\n' ∈ text
    · rw [Text.takeWhile_append_of_mem hfeed]
    · have hboth : '\n' ∉ text ++ ['\r'] := by simp [hfeed]
      rw [Text.takeWhile_of_not_mem hboth, Text.takeWhile_of_not_mem hfeed]
      exact Text.trim_append_blank text rfl
  have hfront (parts : Parts) (hparts : parts.Valid) : '\r' ∉ parts.front :=
    hparts.not_mem_front rfl rfl (by decide) (by decide)
  rw [first?_append_cons hfront hmessage, first?, Option.or_none]

/-- A carriage return at the end of a line has no part in its finding. -/
theorem first?_dropReturn (line : Text) : first? (Text.dropReturn line) = first? line := by
  rcases Text.eq_dropReturn_append line with hline | hline
  · rw [← hline]
  · conv => rhs; rw [hline]
    exact (first?_append_return _).symm

/-! ## Whole texts -/

/-- The shortcut for blank output changes nothing, since a finding is not blank. -/
theorem parse_eq_filterMap (output : Text) :
    parse output = (Text.lines output).filterMap first? := by
  rw [parse]
  split
  · rename_i hblank
    refine (List.filterMap_eq_nil_iff.2 fun line hline ↦ ?_).symm
    refine first?_eq_none_of_colon_not_mem fun hcolon ↦ ?_
    cases List.all_eq_true.1 hblank ':' (Text.mem_of_mem_lines hline hcolon)
  · rfl

/-- The findings are those of the pieces between line feeds, with the carriage returns in them and the
piece behind the last one. -/
theorem parse_eq_filterMap_pieces (output : Text) :
    parse output = (Text.pieces '\n' output).filterMap first? := by
  obtain ⟨before, last, hpieces⟩ :=
    List.eq_nil_or_concat (Text.pieces '\n' output) |>.resolve_left (Text.pieces_ne_nil '\n' output)
  have hlines : Text.lines output =
      before.map Text.dropReturn ++ [last].filter fun last ↦ !last.isEmpty := by
    simp [Text.lines, hpieces]
  have hbefore : (before.map Text.dropReturn).filterMap first? = before.filterMap first? := by
    rw [List.filterMap_map]
    exact List.filterMap_congr fun line _ ↦ first?_dropReturn line
  have hlast : ([last].filter fun last ↦ !last.isEmpty).filterMap first? =
      [last].filterMap first? := by
    cases last with
    | nil => rfl
    | cons c last => rfl
  calc
    parse output = (Text.lines output).filterMap first? := parse_eq_filterMap output
    _ = before.filterMap first? ++ [last].filterMap first? := by
      rw [hlines, List.filterMap_append, hbefore, hlast]
    _ = (Text.pieces '\n' output).filterMap first? := by
      rw [hpieces, List.concat_eq_append, List.filterMap_append]

theorem parse_append_feed (text rest : Text) :
    parse (text ++ '\n' :: rest) = parse text ++ parse rest := by
  rw [parse_eq_filterMap_pieces, Text.pieces_append_cons, List.filterMap_append,
    ← parse_eq_filterMap_pieces, ← parse_eq_filterMap_pieces]

theorem parse_append_return (text : Text) : parse (text ++ ['\r']) = parse text := by
  have hline {line : Text} (hfeed : '\n' ∉ line) : parse (line ++ ['\r']) = parse line := by
    have hreturn : '\n' ∉ line ++ ['\r'] := by simp [hfeed]
    rw [parse_eq_filterMap_pieces, Text.pieces_of_not_mem hreturn, parse_eq_filterMap_pieces,
      Text.pieces_of_not_mem hfeed, List.filterMap_cons, first?_append_return, List.filterMap_cons]
  obtain ⟨front, line, done, rfl, hfeed, hdone⟩ := Text.exists_last_line text
  have hparse (more : Text) : parse (front ++ more) = done.filterMap first? ++ parse more := by
    rw [parse_eq_filterMap, hdone, List.filterMap_append, ← parse_eq_filterMap]
  rw [List.append_assoc, hparse, hline hfeed, hparse]

theorem first?_join (lines : List Text) :
    first? (Text.join ['\n'] lines) = (lines.filterMap first?).head? := by
  induction lines with
  | nil => rfl
  | cons line lines ih =>
    have hcons : ((line :: lines).filterMap first?).head? =
        (first? line).or (lines.filterMap first?).head? := by
      rw [List.filterMap_cons]
      cases first? line <;> rfl
    cases lines with
    | nil => simp
    | cons next lines =>
      rw [Text.join_cons_cons, List.append_assoc, List.singleton_append, first?_append_feed, ih,
        hcons]

/-- The findings of a text are those in front of a line end and then those behind it, whatever stands on
either side, and the shortcut for blank output never shows. -/
theorem parse_append_line_ends :
    (∀ text rest : Text, parse (text ++ "\n".toList ++ rest) = parse text ++ parse rest) ∧
    (∀ text rest : Text, parse (text ++ "\r\n".toList ++ rest) = parse text ++ parse rest) ∧
    ∀ output : Text, parse output = (Text.lines output).filterMap first? := by
  refine ⟨fun text rest ↦ ?_, fun text rest ↦ ?_, parse_eq_filterMap⟩
  · calc
      parse (text ++ "\n".toList ++ rest) = parse (text ++ '\n' :: rest) := by
        rw [List.append_assoc]
        rfl
      _ = parse text ++ parse rest := parse_append_feed text rest
  · calc
      parse (text ++ "\r\n".toList ++ rest) = parse (text ++ ['\r'] ++ '\n' :: rest) := by
        rw [List.append_assoc, List.append_assoc]
        rfl
      _ = parse (text ++ ['\r']) ++ parse rest := parse_append_feed _ rest
      _ = parse text ++ parse rest := by rw [parse_append_return]

/-- The first finding of a text is the one that is found when all of it is searched like one line. -/
theorem first?_eq_head?_parse (text : Text) :
    first? text = (parse text).head? ∧ (first? text = none ↔ parse text = []) := by
  have hfirst : first? text = (parse text).head? :=
    calc
      first? text = first? (Text.join ['\n'] (Text.pieces '\n' text)) := by rw [Text.join_pieces]
      _ = ((Text.pieces '\n' text).filterMap first?).head? := first?_join _
      _ = (parse text).head? := by rw [parse_eq_filterMap_pieces]
  exact ⟨hfirst, by rw [hfirst, List.head?_eq_none_iff]⟩

end CodeRepair.Record
