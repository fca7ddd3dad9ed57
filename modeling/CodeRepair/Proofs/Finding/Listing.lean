import CodeRepair.Finding.Diagnostic
import CodeRepair.Proofs.Finding.Report
import CodeRepair.Proofs.Text.Trimming
import Mathlib.Data.List.Basic
import Mathlib.Tactic.Common

/-!
# Text listings

A text listing has one line for each diagnostic.  The diagnostics of findings can be read off it: the
numbers and the word for the severity end at the next colon, and a message ends at the next line feed,
since no finding has one in its message.  Lines are counted from zero, and the greatest number that a
finding can have leaves room to count them from one again.
-/

namespace CodeRepair

/-! ## What the parts of a line are made of -/

theorem Text.ofNat_injective : Function.Injective Text.ofNat := by
  intro n other h
  have hnumber := congrArg asciiNumber? h
  rw [asciiNumber?_ofNat, asciiNumber?_ofNat] at hnumber
  exact Option.some.inj hnumber

namespace Severity

theorem name_injective : Function.Injective name := by
  intro severity other h
  cases severity <;> cases other <;> first | rfl | cases h

theorem colon_not_mem_name (severity : Severity) : ':' ∉ severity.name := by
  cases severity <;> decide

end Severity

namespace Record

theorem Parts.feed_not_mem_message (parts : Parts) : '\n' ∉ parts.record.message := by
  obtain ⟨before, after, -, -, htrim⟩ :=
    Text.exists_eq_append_trim (parts.rest.takeWhile (· != '\n'))
  intro hfeed
  have hmem : '\n' ∈ parts.rest.takeWhile (· != '\n') := by
    rw [htrim]
    exact List.mem_append_left _ (List.mem_append_right _ hfeed)
  have hne := List.mem_takeWhile_imp hmem
  cases hne

/-- A finding is read in one line. -/
theorem feed_not_mem_message {output : Text} {record : Record} (h : record ∈ parse output) :
    '\n' ∉ record.message := by
  rw [parse_eq_filterMap] at h
  obtain ⟨line, -, hfirst⟩ := List.mem_filterMap.1 h
  obtain ⟨path, parts, -, rfl⟩ := first?_eq_some_iff.1 hfirst
  exact parts.feed_not_mem_message

end Record

namespace Diagnostic

/-! ## Counting lines from zero and from one -/

theorem toNat_lineOf (line : UInt32) : (lineOf line).toNat = line.toNat - 1 := by
  rw [lineOf]
  split
  · rename_i hzero
    rw [hzero]
    rfl
  · rename_i hne
    have hpos : 1 ≤ line.toNat := Nat.one_le_iff_ne_zero.2 fun h ↦ hne (UInt32.toNat_inj.1 h)
    exact UInt32.toNat_sub_of_le line 1 hpos

/-- There is room to count the lines of findings from one. -/
theorem toNat_lineOf_add_one_lt (line : UInt32) : (lineOf line).toNat + 1 < UInt32.size := by
  have hlt : line.toNat < UInt32.size := line.toNat_lt_size
  have hsize : 1 < UInt32.size := by decide
  rw [toNat_lineOf]
  omega

theorem toNat_add_one {line : UInt32} (h : line.toNat + 1 < UInt32.size) :
    (line + 1).toNat = line.toNat + 1 := by
  rw [UInt32.toNat_add]
  exact Nat.mod_eq_of_lt h

theorem toNat_lineOf_add_one (line : UInt32) : (lineOf line + 1).toNat = max line.toNat 1 := by
  rw [toNat_add_one (toNat_lineOf_add_one_lt line), toNat_lineOf]
  omega

/-! ## Diagnostics of findings -/

/-- What a diagnostic has to be like for its line to tell all of it: its range is empty, its line has
a successor, and its message does not go over the end of a line. -/
structure IsPrintable (diagnostic : Diagnostic) : Prop where
  point : diagnostic.range.stop = diagnostic.range.start
  fits : diagnostic.range.start.line.toNat + 1 < UInt32.size
  feed_not_mem : '\n' ∉ diagnostic.message

theorem isPrintable_ofRecord {output : Text} {record : Record} (h : record ∈ Record.parse output) :
    (ofRecord record).IsPrintable where
  point := rfl
  fits := toNat_lineOf_add_one_lt record.line
  feed_not_mem := Record.feed_not_mem_message h

theorem isPrintable_of_mem {output : Text} {diagnostic : Diagnostic}
    (h : diagnostic ∈ (Record.parse output).map .ofRecord) : diagnostic.IsPrintable := by
  obtain ⟨record, hrecord, rfl⟩ := List.mem_map.1 h
  exact isPrintable_ofRecord hrecord

/-! ## Reading a line back -/

variable {document : Text}

theorem textLine_append (document : Text) (diagnostic : Diagnostic) (rest : Text) :
    textLine document diagnostic ++ rest =
      document ++ ':' :: (Text.ofNat (diagnostic.range.start.line + 1).toNat ++
        ':' :: (Text.ofNat diagnostic.range.start.character.toNat ++
          ':' :: ' ' :: (diagnostic.severity.name ++
            ':' :: ' ' :: (diagnostic.message ++ '\n' :: rest)))) := by
  simp [textLine]

/-- A line tells its diagnostic and where it ends. -/
theorem IsPrintable.eq_of_textLine_append {diagnostic other : Diagnostic} {rest more : Text}
    (hdiagnostic : diagnostic.IsPrintable) (hother : other.IsPrintable)
    (h : textLine document diagnostic ++ rest = textLine document other ++ more) :
    diagnostic = other ∧ rest = more := by
  have hnumber (n : Nat) : ':' ∉ Text.ofNat n := (Record.isNumber_ofNat n).colon_not_mem
  rw [textLine_append, textLine_append] at h
  -- Each part ends at the first character that it cannot hold; the path is the same in both lines.
  have hnumbers := (List.cons.inj (List.append_cancel_left h)).2
  obtain ⟨hline, hplace⟩ := Text.append_cons_inj (hnumber _) (hnumber _) hnumbers
  obtain ⟨hcharacter, hspaced⟩ := Text.append_cons_inj (hnumber _) (hnumber _) hplace
  have hgrave := (List.cons.inj hspaced).2
  obtain ⟨hname, htold⟩ := Text.append_cons_inj diagnostic.severity.colon_not_mem_name
    other.severity.colon_not_mem_name hgrave
  have hmessages := (List.cons.inj htold).2
  obtain ⟨hmessage, hrest⟩ :=
    Text.append_cons_inj hdiagnostic.feed_not_mem hother.feed_not_mem hmessages
  -- Without an overflow, lines counted from one are told apart like lines counted from zero.
  have hsuccessor := Text.ofNat_injective hline
  rw [toNat_add_one hdiagnostic.fits, toNat_add_one hother.fits] at hsuccessor
  have hstart : diagnostic.range.start = other.range.start :=
    congrArg₂ Position.mk (UInt32.toNat_inj.1 (Nat.succ.inj hsuccessor))
      (UInt32.toNat_inj.1 (Text.ofNat_injective hcharacter))
  have hrange : diagnostic.range = other.range := by
    refine congrArg₂ Range.mk hstart ?_
    rw [hdiagnostic.point, hother.point, hstart]
  refine ⟨?_, hrest⟩
  obtain ⟨range, message, severity⟩ := diagnostic
  obtain rfl : range = other.range := hrange
  obtain rfl : message = other.message := hmessage
  obtain rfl : severity = other.severity := Severity.name_injective hname
  rfl

/-! ## Reading a listing back -/

theorem textLine_ne_nil (document : Text) (diagnostic : Diagnostic) :
    textLine document diagnostic ≠ [] :=
  List.append_ne_nil_of_right_ne_nil _ (List.cons_ne_nil _ _)

/-- Lines put together tell their diagnostics. -/
theorem eq_of_flatMap_textLine {diagnostics others : List Diagnostic}
    (hdiagnostics : ∀ diagnostic ∈ diagnostics, diagnostic.IsPrintable)
    (hothers : ∀ other ∈ others, other.IsPrintable)
    (h : diagnostics.flatMap (textLine document) = others.flatMap (textLine document)) :
    diagnostics = others := by
  induction diagnostics generalizing others with
  | nil =>
    cases others with
    | nil => rfl
    | cons other others =>
      exact absurd (List.append_eq_nil_iff.1 h.symm).1 (textLine_ne_nil document other)
  | cons diagnostic diagnostics ih =>
    cases others with
    | nil => exact absurd (List.append_eq_nil_iff.1 h).1 (textLine_ne_nil document diagnostic)
    | cons other others =>
      rw [List.forall_mem_cons] at hdiagnostics hothers
      rw [List.flatMap_cons, List.flatMap_cons] at h
      obtain ⟨rfl, hrest⟩ := hdiagnostics.1.eq_of_textLine_append hothers.1 h
      rw [ih hdiagnostics.2 hothers.2 hrest]

/-- A line has a number where the listing of no diagnostics has a space. -/
theorem textLine_append_ne_no_findings (diagnostic : Diagnostic) (rest : Text) :
    textLine document diagnostic ++ rest ≠ document ++ ": no findings\n".toList := by
  intro h
  rw [textLine_append] at h
  have hnumber := (List.cons.inj (List.append_cancel_left h)).2
  exact (Record.isNumber_ofNat _).ne_space hnumber.symm

/-- Listings of the same document tell its diagnostics. -/
theorem listing_inj {document : DocumentId} {diagnostics others : List Diagnostic}
    (hdiagnostics : ∀ diagnostic ∈ diagnostics, diagnostic.IsPrintable)
    (hothers : ∀ other ∈ others, other.IsPrintable) :
    listing document diagnostics = listing document others ↔ diagnostics = others := by
  refine ⟨fun h ↦ ?_, fun h ↦ by rw [h]⟩
  cases diagnostics with
  | nil =>
    cases others with
    | nil => rfl
    | cons other others => exact absurd h.symm (textLine_append_ne_no_findings other _)
  | cons diagnostic diagnostics =>
    cases others with
    | nil => exact absurd h (textLine_append_ne_no_findings diagnostic _)
    | cons other others => exact eq_of_flatMap_textLine hdiagnostics hothers h

/-- The line of a finding, written from the finding itself. -/
theorem textLine_ofRecord (document : Text) (record : Record) :
    textLine document (ofRecord record) =
      document ++ ":".toList ++ Text.ofNat (max record.line.toNat 1) ++ ":".toList ++
        Text.ofNat record.column.toNat ++ ": ".toList ++ record.severity.name ++ ": ".toList ++
        record.message ++ "\n".toList := by
  rw [← toNat_lineOf_add_one]
  rfl

/-- The listing of the findings in any output: lines can be counted from one without an overflow, each
finding has its line in order, and outputs with the same listing have the same diagnostics. -/
theorem listing_faithful (document : DocumentId) (output : Text) :
    let records := Record.parse output
    let diagnostics := records.map ofRecord
    (∀ diagnostic ∈ diagnostics, diagnostic.range.start.line.toNat + 1 < UInt32.size) ∧
      listing document diagnostics =
        (if records = [] then document.path ++ ": no findings\n".toList
        else records.flatMap fun record ↦
          document.path ++ ":".toList ++ Text.ofNat (max record.line.toNat 1) ++ ":".toList ++
            Text.ofNat record.column.toNat ++ ": ".toList ++ record.severity.name ++ ": ".toList ++
            record.message ++ "\n".toList) ∧
      ∀ other : Text,
        listing document diagnostics = listing document ((Record.parse other).map ofRecord) ↔
          diagnostics = (Record.parse other).map ofRecord := by
  intro records diagnostics
  refine ⟨fun diagnostic h ↦ (isPrintable_of_mem h).fits, ?_, fun other ↦ ?_⟩
  · simp only [diagnostics, listing, List.isEmpty_map, List.isEmpty_iff, List.flatMap_map,
      textLine_ofRecord]
  · exact listing_inj (fun _ ↦ isPrintable_of_mem) fun _ ↦ isPrintable_of_mem

/-- The path and the messages look like parts of a listing.  Line zero and a column that is too great
are listed as the places that they are taken for. -/
theorem listing_faithful_clamped :
    let document : DocumentId := ⟨"/a:1:2: error: b".toList⟩
    let diagnostics := fun output : String ↦ (Record.parse output.toList).map ofRecord
    let output := "b:0:99999999999: E0602: 2:3: warning: c"
    let same := "noise\nb:1:4294967295: F0001: 2:3: warning: c \r\n"
    let split := "b:1:4294967295: E0602: 2:3: warning: c\nb:1:0: W0602: c"
    (∀ diagnostic ∈ diagnostics output, diagnostic.range.start.line.toNat + 1 < UInt32.size) ∧
      listing document (diagnostics output) =
        "/a:1:2: error: b:1:4294967295: error: 2:3: warning: c\n".toList ∧
      listing document (diagnostics output) = listing document (diagnostics same) ∧
      listing document (diagnostics output) ≠ listing document (diagnostics split) ∧
      listing document (diagnostics output) ≠ listing document (diagnostics "noise") := by
  intro document diagnostics output same split
  obtain ⟨hfits, hlisting, hiff⟩ := listing_faithful document output.toList
  refine ⟨hfits, hlisting.trans (by decide +kernel), (hiff same.toList).2 (by decide +kernel), ?_, ?_⟩
  · exact mt (hiff split.toList).1 (by decide +kernel)
  · exact mt (hiff "noise".toList).1 (by decide +kernel)

end Diagnostic

end CodeRepair
