import CodeRepair.Proofs.Finding.Lines

/-!
# Reports of a tool

A tool prints findings behind the paths they are in, between lines of noise.  Reading its report
gives back the findings in order, for any messages and any noise, as long as no path holds a finding
itself; behind such a path a finding is lost.
-/

namespace CodeRepair

namespace Record

/-- A capital letter and four digits of ASCII, as tools print them. -/
def IsPrintedCode (code : Text) : Prop :=
  ∃ letter digits, code = letter :: digits ∧ letter.isUpper = true ∧ digits.length = 4 ∧
    ∀ c ∈ digits, c.isDigit = true

theorem IsPrintedCode.isCode {code : Text} (h : IsPrintedCode code) : IsCode code := by
  obtain ⟨letter, digits, hcode, hletter, hlength, hdigits⟩ := h
  exact ⟨letter, digits, hcode, hletter, hlength, fun c hc ↦ Text.isDigit_of_ascii (hdigits c hc)⟩

/-- A finding as it is printed behind a path. -/
def printed (path : Text) (record : Record) : Text :=
  path ++ ":".toList ++ Text.ofNat record.line.toNat ++ ":".toList ++
    Text.ofNat record.column.toNat ++ ": ".toList ++ record.code ++ ": ".toList ++ record.message

/-- The finding that is read where one is printed. -/
def trimmed (record : Record) : Record :=
  { record with message := Text.trim record.message }

/-- The parts of a finding as it is printed. -/
def parts (record : Record) : Parts :=
  ⟨Text.ofNat record.line.toNat, Text.ofNat record.column.toNat, record.code, record.message⟩

theorem printed_eq (path : Text) (record : Record) :
    printed path record = path ++ record.parts.text := by
  simp [printed, Parts.text, parts]

theorem isNumber_ofNat (n : Nat) : IsNumber (Text.ofNat n) :=
  ⟨Text.ofNat_ne_nil n, fun _ hc ↦ Text.isDigit_of_mem_ofNat hc⟩

theorem parts_valid {record : Record} (h : IsPrintedCode record.code) : record.parts.Valid where
  line := isNumber_ofNat _
  column := isNumber_ofNat _
  code := h.isCode

/-- A position is read as it was printed. -/
theorem position_ofNat (n : UInt32) : position (Text.ofNat n.toNat) = n := by
  rw [position, Text.asciiNumber?_ofNat]
  simp only [n.toNat_lt_size, if_true, UInt32.ofNat_toNat]

theorem record_parts {record : Record} (h : '\n' ∉ record.message) :
    record.parts.record = record.trimmed := by
  simp only [parts, Parts.record, trimmed, position_ofNat, Text.takeWhile_of_not_mem h]

theorem feed_not_mem_text {record : Record} (hmessage : '\n' ∉ record.message)
    (hcode : IsPrintedCode record.code) : '\n' ∉ record.parts.text := by
  have hnumber (n : Nat) : '\n' ∉ Text.ofNat n := fun hmem ↦ by
    cases Text.isDigit_of_mem_ofNat hmem
  simp [Parts.text, parts, hnumber, hmessage, hcode.isCode.feed_not_mem]

/-! ## One line -/

theorem first?_printed (record : Record) {path : Text} (hmessage : '\n' ∉ record.message)
    (hcode : IsPrintedCode record.code) (hpath : first? path = none) :
    first? (printed path record) = some record.trimmed := by
  rw [printed_eq, first?_append_text (parts_valid hcode) hpath, record_parts hmessage]

/-- Behind a path with a finding, the message that is read has more colons than the one printed. -/
theorem first?_printed_ne {path : Text} {record : Record} (hpath : '\n' ∉ path)
    (hmessage : '\n' ∉ record.message) (hcode : IsPrintedCode record.code)
    (hfirst : first? path ≠ none) : first? (printed path record) ≠ some record.trimmed := by
  obtain ⟨found, hfound⟩ := Option.ne_none_iff_exists'.1 hfirst
  obtain ⟨parts, rest, hprinted, hrest, hmem⟩ :=
    first?_append_text_of_some (parts_valid hcode) hfound
  rw [printed_eq, hprinted]
  intro heq
  have hline : '\n' ∉ parts.rest := by
    rw [hrest, List.mem_append, not_or]
    exact ⟨fun hfeed ↦ hpath (hmem _ hfeed), feed_not_mem_text hmessage hcode⟩
  have htrim : Text.trim parts.rest = Text.trim record.message := by
    have := congrArg Record.message (Option.some.inj heq)
    rwa [Parts.record, Text.takeWhile_of_not_mem hline] at this
  have hcount : parts.rest.count ':' = record.message.count ':' := by
    rw [← Text.count_trim rfl parts.rest, htrim, Text.count_trim rfl]
  have hmore : record.message.count ':' < parts.rest.count ':' := by
    simp only [hrest, Parts.text, Record.parts, List.count_append, List.count_cons]
    simp only [beq_self_eq_true, if_true]
    omega
  omega

theorem feed_not_mem_printed {path : Text} {record : Record} (hpath : '\n' ∉ path)
    (hmessage : '\n' ∉ record.message) (hcode : IsPrintedCode record.code) :
    '\n' ∉ printed path record := by
  rw [printed_eq, List.mem_append, not_or]
  exact ⟨hpath, feed_not_mem_text hmessage hcode⟩

end Record

/-! ## Whole reports -/

/-- How a line of a report ends. -/
inductive LineEnd
  | feed
  | returnFeed

namespace LineEnd

/-- The characters of a line end. -/
def text : LineEnd → Text
  | feed => ['\n']
  | returnFeed => ['\r', '\n']

/-- What is read of a line before its end. -/
def read : LineEnd → Text → Text
  | feed, line => Text.dropReturn line
  | returnFeed, line => line

theorem lines_append (ending : LineEnd) {line : Text} (h : '\n' ∉ line) (rest : Text) :
    Text.lines (line ++ ending.text ++ rest) = ending.read line :: Text.lines rest := by
  cases ending with
  | feed =>
    rw [text, List.append_assoc, List.singleton_append, Text.lines_append_feed,
      Text.pieces_of_not_mem h]
    rfl
  | returnFeed =>
    have hline : '\n' ∉ line ++ ['\r'] := by simp [h]
    have hgroup : line ++ ['\r', '\n'] ++ rest = (line ++ ['\r']) ++ '\n' :: rest := by simp
    rw [text, hgroup, Text.lines_append_feed, Text.pieces_of_not_mem hline, List.map_singleton,
      Text.dropReturn_append_return]
    rfl

theorem first?_read (ending : LineEnd) (line : Text) :
    Record.first? (ending.read line) = Record.first? line := by
  cases ending with
  | feed => exact Record.first?_dropReturn line
  | returnFeed => rfl

end LineEnd

/-- A line of a report. -/
inductive ReportLine
  | noise (text : Text)
  | finding (path : Text) (record : Record)

namespace ReportLine

/-- A line as it is printed, without its end. -/
def text : ReportLine → Text
  | noise text => text
  | finding path record => record.printed path

/-- What is read from a line. -/
def record? : ReportLine → Option Record
  | noise _ => none
  | finding _ record => some record.trimmed

/-- Noise holds no finding, and neither does the path in front of one. -/
def WellFormed : ReportLine → Prop
  | noise text => '\n' ∉ text ∧ Record.first? text = none
  | finding path record => '\n' ∉ path ∧ '\n' ∉ record.message ∧
    Record.IsPrintedCode record.code ∧ Record.first? path = none

theorem WellFormed.feed_not_mem {line : ReportLine} (h : line.WellFormed) : '\n' ∉ line.text := by
  cases line with
  | noise text => exact h.1
  | finding path record => exact Record.feed_not_mem_printed h.1 h.2.1 h.2.2.1

theorem WellFormed.first?_text {line : ReportLine} (h : line.WellFormed) :
    Record.first? line.text = line.record? := by
  cases line with
  | noise text => exact h.2
  | finding path record =>
    obtain ⟨-, hmessage, hcode, hpath⟩ := h
    exact Record.first?_printed record hmessage hcode hpath

end ReportLine

/-- The text of a report. -/
def reportText (report : List (ReportLine × LineEnd)) : Text :=
  report.flatMap fun line ↦ line.1.text ++ line.2.text

theorem parse_reportText {report : List (ReportLine × LineEnd)}
    (h : ∀ line ∈ report, line.1.WellFormed) :
    Record.parse (reportText report) = report.filterMap fun line ↦ line.1.record? := by
  rw [Record.parse_eq_filterMap]
  induction report with
  | nil => rfl
  | cons line report ih =>
    have hline := h line List.mem_cons_self
    rw [reportText, List.flatMap_cons, LineEnd.lines_append line.2 hline.feed_not_mem,
      List.filterMap_cons, List.filterMap_cons, line.2.first?_read, hline.first?_text]
    rw [← reportText, ih fun other hother ↦ h other (List.mem_cons_of_mem line hother)]

/-- A finding behind a path that holds one itself is not read as it was printed. -/
theorem parse_finding_ne {path : Text} {record : Record} (ending : LineEnd) (hpath : '\n' ∉ path)
    (hmessage : '\n' ∉ record.message) (hcode : Record.IsPrintedCode record.code)
    (hfirst : Record.first? path ≠ none) :
    Record.parse (reportText [(.finding path record, ending)]) ≠ [record.trimmed] := by
  have htext : reportText [(.finding path record, ending)] =
      record.printed path ++ ending.text ++ [] := by
    simp [reportText, ReportLine.text]
  rw [Record.parse_eq_filterMap, htext,
    LineEnd.lines_append ending (Record.feed_not_mem_printed hpath hmessage hcode),
    Text.lines_nil]
  have hne : Record.first? (ending.read (record.printed path)) ≠ some record.trimmed := by
    rw [ending.first?_read]
    exact Record.first?_printed_ne hpath hmessage hcode hfirst
  intro heq
  cases hread : Record.first? (ending.read (record.printed path)) with
  | none => simp [hread] at heq
  | some found =>
    rw [hread] at hne
    simp only [List.filterMap_cons, hread, List.filterMap_nil, List.cons.injEq, and_true] at heq
    exact hne (congrArg some heq)

/-- Reading a report gives its findings in order, with their messages trimmed, and nothing for the
noise between them.  One printed finding is read back exactly when its path holds none. -/
theorem parse_report :
    (∀ report : List (ReportLine × LineEnd), (∀ line ∈ report, line.1.WellFormed) →
      Record.parse (reportText report) = report.filterMap fun line ↦ line.1.record?) ∧
    ∀ (path : Text) (record : Record) (ending : LineEnd), '\n' ∉ path → '\n' ∉ record.message →
      Record.IsPrintedCode record.code →
      (Record.parse (reportText [(.finding path record, ending)]) = [record.trimmed] ↔
        Record.first? path = none) := by
  refine ⟨fun report ↦ parse_reportText, fun path record ending hpath hmessage hcode ↦ ?_⟩
  constructor
  · intro hparse
    refine Decidable.byContradiction fun hfirst ↦ ?_
    exact parse_finding_ne ending hpath hmessage hcode hfirst hparse
  · intro hfirst
    refine parse_reportText fun line hline ↦ ?_
    rw [List.mem_singleton.1 hline]
    exact ⟨hpath, hmessage, hcode, hfirst⟩

/-- The path ends in half a finding, and the message holds a whole one. -/
theorem parse_report_half_finding :
    let path := "C:\\x:1:2: W01".toList
    let record : Record := ⟨7, 0, "E0602".toList, " see a.py:3:4: W0102: b \r".toList⟩
    Record.parse (reportText [(.noise ":1: E0602: x".toList, .returnFeed),
      (.finding path record, .feed)]) = [record.trimmed] ∧
    (Record.parse (reportText [(.finding path record, .feed)]) = [record.trimmed] ↔
      Record.first? path = none) := by
  intro path record
  have hcode : Record.IsPrintedCode record.code :=
    ⟨'E', "0602".toList, rfl, rfl, rfl, List.all_eq_true.1 rfl⟩
  refine ⟨parse_report.1 _ fun line hline ↦ ?_, parse_report.2 path record .feed
    (by decide) (by decide) hcode⟩
  simp only [List.mem_cons, List.not_mem_nil, or_false] at hline
  rcases hline with rfl | rfl
  · exact ⟨by decide, by decide⟩
  · exact ⟨by decide, by decide, hcode, rfl⟩

end CodeRepair
