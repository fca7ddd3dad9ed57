import CodeRepair.Execution.ErrorLine
import CodeRepair.Proofs.Text.Ascii
import CodeRepair.Proofs.Text.Trimming

/-!
# Error output as lines of a text

A line feed is a byte of ASCII, so error output may be cut behind its line feeds before it is decoded:
the parts decode to the lines of the whole text, also where a character breaks off in front of a line
feed.  What is passed on of a line is all of it but the white space at its end, and the line feed goes
with that.
-/

namespace CodeRepair.Execution

/-! ## Lines of bytes -/

theorem byteLines_cons (byte : UInt8) (bytes : List UInt8) :
    byteLines (byte :: bytes) = byteLineStep byte (byteLines bytes) := rfl

/-- There is always a last line, be it empty. -/
theorem byteLines_ne_nil (bytes : List UInt8) : byteLines bytes ≠ [] := by
  induction bytes with
  | nil => exact List.cons_ne_nil _ _
  | cons byte bytes ih =>
    obtain ⟨line, rest, hlines⟩ := List.exists_cons_of_ne_nil ih
    rw [byteLines_cons, hlines, byteLineStep]
    split <;> exact List.cons_ne_nil _ _

theorem byteLines_of_not_mem {bytes : List UInt8} (h : lineFeed ∉ bytes) :
    byteLines bytes = [bytes] := by
  induction bytes with
  | nil => rfl
  | cons byte bytes ih =>
    rw [List.mem_cons, not_or] at h
    rw [byteLines_cons, ih h.2, byteLineStep, if_neg (Ne.symm h.1)]

/-- The first line goes up to the first line feed. -/
theorem byteLines_append_feed {line : List UInt8} (h : lineFeed ∉ line) (rest : List UInt8) :
    byteLines (line ++ lineFeed :: rest) = (line ++ [lineFeed]) :: byteLines rest := by
  induction line with
  | nil =>
    obtain ⟨first, others, hrest⟩ := List.exists_cons_of_ne_nil (byteLines_ne_nil rest)
    rw [List.nil_append, byteLines_cons, hrest, byteLineStep, if_pos rfl]
    rfl
  | cons byte line ih =>
    rw [List.mem_cons, not_or] at h
    rw [List.cons_append, byteLines_cons, ih h.2, byteLineStep, if_neg (Ne.symm h.1)]
    rfl

/-! ## Lines of text -/

/-- What is passed on for a line of text, if anything remains of it. -/
def remainder? (line : Text) : Option Text :=
  if line.trimRight.isEmpty then none else some line.trimRight

theorem errorLine?_eq (line : List UInt8) :
    errorLine? line = remainder? (Text.decodeLenient line) := rfl

theorem remainder?_eq_some_iff {line text : Text} :
    remainder? line = some text ↔ line.trimRight ≠ [] ∧ line.trimRight = text := by
  rw [remainder?]
  cases line.trimRight <;> simp

theorem filterMap_remainder? (lines : List Text) :
    lines.filterMap remainder? = (lines.map Text.trimRight).filter fun line ↦ !line.isEmpty := by
  rw [List.filter_map, ← List.filterMap_eq_map, List.filterMap_filter]
  refine List.filterMap_congr fun line _ ↦ ?_
  simp only [remainder?, Function.comp_apply]
  cases line.trimRight <;> rfl

/-- Nothing is taken from a line but white space at its end. -/
theorem exists_blank_of_remainder? {line text : Text} (h : remainder? line = some text) :
    ∃ blank, Text.IsBlank blank ∧ line = text ++ blank := by
  refine ⟨line.rtakeWhile Text.isBlank, fun c hc ↦ List.mem_rtakeWhile_imp hc, ?_⟩
  rw [← (remainder?_eq_some_iff.1 h).2]
  exact List.rdropWhile_append_rtakeWhile.symm

theorem remainder?_append_feed (line : Text) : remainder? (line ++ ['\n']) = remainder? line := by
  have htrim : Text.trimRight (line ++ ['\n']) = line.trimRight := by
    rw [Text.trimRight, List.reverse_concat, List.dropWhile_cons, if_pos (by decide)]
    rfl
  rw [remainder?, remainder?, htrim]

/-- A line feed is decoded as one, and apart from what stands on both sides of it. -/
theorem decodeLenient_append_feed (first second : List UInt8) :
    Text.decodeLenient (first ++ lineFeed :: second) =
      Text.decodeLenient first ++ '\n' :: Text.decodeLenient second :=
  Text.decodeLenient_append_ascii first second (by decide)

theorem feed_not_mem_decodeLenient {bytes : List UInt8} (h : lineFeed ∉ bytes) :
    '\n' ∉ Text.decodeLenient bytes := by
  intro hfeed
  obtain ⟨byte, hbyte, hvalue⟩ := Text.exists_byte_of_mem_decodeLenient (by decide) hfeed
  obtain rfl : lineFeed = byte := UInt8.toNat_inj.1 hvalue
  exact h hbyte

/-- Lines may be decoded one by one. -/
theorem errorLines_eq_filterMap (bytes : List UInt8) :
    errorLines bytes = (Text.pieces '\n' (Text.decodeLenient bytes)).filterMap remainder? := by
  by_cases hfeed : lineFeed ∈ bytes
  · obtain ⟨line, rest, rfl, hline⟩ := List.eq_append_cons_of_mem hfeed
    have hfirst : errorLine? (line ++ [lineFeed]) = remainder? (Text.decodeLenient line) := by
      have hdecode : Text.decodeLenient (line ++ [lineFeed]) = Text.decodeLenient line ++ ['\n'] :=
        decodeLenient_append_feed line []
      rw [errorLine?_eq, hdecode, remainder?_append_feed]
    have hpieces : Text.pieces '\n' (Text.decodeLenient (line ++ lineFeed :: rest)) =
        Text.decodeLenient line :: Text.pieces '\n' (Text.decodeLenient rest) := by
      rw [decodeLenient_append_feed, Text.pieces_append_cons,
        Text.pieces_of_not_mem (feed_not_mem_decodeLenient hline)]
      rfl
    rw [errorLines, byteLines_append_feed hline, hpieces, List.filterMap_cons,
      List.filterMap_cons, hfirst, ← errorLines, errorLines_eq_filterMap rest]
  · rw [errorLines, byteLines_of_not_mem hfeed,
      Text.pieces_of_not_mem (feed_not_mem_decodeLenient hfeed)]
    rfl
termination_by bytes.length

theorem errorLines_append_feed (first second : List UInt8) :
    errorLines (first ++ lineFeed :: second) = errorLines first ++ errorLines second := by
  rw [errorLines_eq_filterMap, decodeLenient_append_feed, Text.pieces_append_cons,
    List.filterMap_append, ← errorLines_eq_filterMap, ← errorLines_eq_filterMap]

/-- The lines of error output that are passed on are those of the whole text that it decodes to, without
the white space at their ends and without those that are nothing else.  None of them is empty or holds a
line feed, and the white space at their beginnings stays.  The last line is passed on like the others,
though no line feed ends it. -/
theorem errorLines_eq_lines (bytes : List UInt8) :
    errorLines bytes = ((Text.pieces '\n' (Text.decodeLenient bytes)).map Text.trimRight).filter
        (fun line ↦ !line.isEmpty) ∧
      (∀ line ∈ errorLines bytes, line ≠ [] ∧ '\n' ∉ line ∧ ∃ blank, Text.IsBlank blank ∧
        line ++ blank ∈ Text.pieces '\n' (Text.decodeLenient bytes)) ∧
      (lineFeed ∉ bytes → errorLines bytes =
        [(Text.decodeLenient bytes).trimRight].filter fun line ↦ !line.isEmpty) ∧
      ∀ rest, errorLines (bytes ++ lineFeed :: rest) = errorLines bytes ++ errorLines rest := by
  have hlines := errorLines_eq_filterMap bytes
  refine ⟨by rw [hlines, filterMap_remainder?], fun line hline ↦ ?_, fun hfeed ↦ ?_,
    errorLines_append_feed bytes⟩
  · rw [hlines] at hline
    obtain ⟨piece, hpiece, hremainder⟩ := List.mem_filterMap.1 hline
    obtain ⟨blank, hblank, rfl⟩ := exists_blank_of_remainder? hremainder
    have hne : line ≠ [] := by
      obtain ⟨hne, htrim⟩ := remainder?_eq_some_iff.1 hremainder
      rwa [htrim] at hne
    refine ⟨hne, fun hfeed ↦ ?_, blank, hblank, hpiece⟩
    exact Text.not_mem_of_mem_pieces hpiece (List.mem_append_left blank hfeed)
  · rw [hlines, Text.pieces_of_not_mem (feed_not_mem_decodeLenient hfeed), filterMap_remainder?]
    rfl

/-- A character breaks off in front of a line feed, a line holds nothing but white space beyond ASCII,
and the last line is not ended. -/
theorem errorLines_eq_lines_broken :
    let bytes : List UInt8 := [0x20, 0x61, 0xE2, 0x82, 0x0A, 0xC2, 0x85, 0x0A, 0xC3]
    let first : Text := [' ', 'a', Text.replacement]
    errorLines bytes = [first, [Text.replacement]] ∧ first ∈ errorLines bytes ∧
      '\n' ∉ first ∧ lineFeed ∉ [0xC3] ∧
      errorLines [0xC3] = [(Text.decodeLenient [0xC3]).trimRight].filter fun line ↦ !line.isEmpty := by
  intro bytes first
  have hlines : errorLines bytes = [first, [Text.replacement]] := by decide
  have hfirst : first ∈ errorLines bytes := by
    rw [hlines]
    exact List.mem_cons_self
  have hfeed : lineFeed ∉ [0xC3] := by decide
  exact ⟨hlines, hfirst, ((errorLines_eq_lines bytes).2.1 first hfirst).2.1, hfeed,
    (errorLines_eq_lines [0xC3]).2.2.1 hfeed⟩

end CodeRepair.Execution
