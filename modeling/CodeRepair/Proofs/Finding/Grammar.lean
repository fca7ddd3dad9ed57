import CodeRepair.Proofs.Finding.Report
import Mathlib.Data.Nat.Digits.Defs

/-!
# The grammar of a line with a finding

A line has a finding exactly when it can be written as the grammar of findings says, and then it is the
leftmost such place that is read.  The same line may be written in several ways, such as
`:1:2:3: E0001: `, which begins with a number too many, but in front of each finding there stands
another text.
-/

namespace CodeRepair.Record

/-- A way to write a line: what stands in front of the finding, and the parts of the finding. -/
structure Derivation (line front : Text) (parts : Parts) : Prop where
  valid : parts.Valid
  line_eq : line = front ++ ":".toList ++ parts.line ++ ":".toList ++ parts.column ++ ": ".toList ++
    parts.code ++ ": ".toList ++ parts.rest

/-- Whether no way to write a line has a shorter text in front of the finding. -/
def IsLeftmost (line front : Text) : Prop :=
  ∀ other parts, Derivation line other parts → front.length ≤ other.length

/-- The number that digits of ASCII denote in the decimal system. -/
def decimalValue (digits : Text) : Nat :=
  Nat.ofDigits 10 (digits.reverse.map fun c ↦ c.toNat - '0'.toNat)

/-- Whether a position is what some digits say.  What they cannot say becomes the greatest position. -/
structure Tells (digits : Text) (position : UInt32) : Prop where
  value (hascii : ∀ c ∈ digits, c.isDigit = true) (hsmall : decimalValue digits < 2 ^ 32) :
    position.toNat = decimalValue digits
  clamped (h : (∃ c ∈ digits, c.isDigit = false) ∨ 2 ^ 32 ≤ decimalValue digits) :
    position.toNat = 2 ^ 32 - 1

/-! ## Positions -/

theorem asciiNumber?_of_digits {digits : Text} (h : ∀ c ∈ digits, c.isDigit = true) :
    Text.asciiNumber? digits = some (decimalValue digits) := by
  have hvalue : decimalValue digits =
      digits.foldl (fun n c ↦ 10 * n + (c.toNat - 0x30)) 0 := by
    rw [decimalValue, Nat.ofDigits_eq_foldr, List.foldr_map, List.foldr_reverse]
    simp [Nat.add_comm]
  rw [Text.asciiNumber?, if_pos (List.all_eq_true.2 h), hvalue]

theorem tells_position (digits : Text) : Tells digits (position digits) where
  value hascii hsmall := by
    have hsize : UInt32.size = 2 ^ 32 := rfl
    rw [position, asciiNumber?_of_digits hascii]
    dsimp only
    rw [hsize, if_pos hsmall, UInt32.toNat_ofNat_of_lt' hsmall]
  clamped h := by
    by_cases hascii : ∀ c ∈ digits, c.isDigit = true
    · have hgreat : 2 ^ 32 ≤ decimalValue digits := by
        rcases h with ⟨c, hc, hdigit⟩ | hgreat
        · rw [hascii c hc] at hdigit
          cases hdigit
        · exact hgreat
      have hsize : UInt32.size = 2 ^ 32 := rfl
      rw [position, asciiNumber?_of_digits hascii]
      dsimp only
      rw [hsize, if_neg (Nat.not_lt.2 hgreat)]
      rfl
    · have hnone : Text.asciiNumber? digits = none := by
        rw [Text.asciiNumber?, if_neg]
        rwa [List.all_eq_true]
      rw [position, hnone]
      rfl

/-! ## One way for each text in front -/

/-- The parts of a finding can be told from its text. -/
theorem Parts.eq_of_text_eq {parts other : Parts} (hparts : parts.Valid) (hother : other.Valid)
    (h : parts.text = other.text) : parts = other := by
  have hcolon (more : Text) : ∀ c ∈ (':' :: more).head?, Text.isDigit c = false := by
    intro c hc
    obtain rfl : ':' = c := by simpa using hc
    rfl
  -- Reading a part gives it back with what follows it, and both texts are read alike.
  have hnumber {digits others : Text} (hdigits : IsNumber digits) (hothers : IsNumber others)
      {more rest : Text} (heq : digits ++ ':' :: more = others ++ ':' :: rest) :
      digits = others ∧ more = rest := by
    have hread := digits?_eq_some_iff.2 ⟨hdigits, rfl, hcolon more⟩
    rw [heq, digits?_eq_some_iff.2 ⟨hothers, rfl, hcolon rest⟩] at hread
    simpa [eq_comm] using hread
  have hcode {code others : Text} (hcode : IsCode code) (hothers : IsCode others)
      {more rest : Text} (heq : code ++ more = others ++ rest) : code = others ∧ more = rest := by
    have hread : code? (code ++ more) = some (code, more) := code?_eq_some_iff.2 ⟨hcode, rfl⟩
    rw [heq, code?_eq_some_iff.2 ⟨hothers, rfl⟩] at hread
    simpa [eq_comm] using hread
  obtain ⟨line, column, code, rest⟩ := parts
  obtain ⟨otherLine, otherColumn, otherCode, otherRest⟩ := other
  obtain ⟨rfl, h⟩ := hnumber hparts.line hother.line (List.cons.inj h).2
  obtain ⟨rfl, h⟩ := hnumber hparts.column hother.column h
  obtain ⟨rfl, h⟩ := hcode hparts.code hother.code (List.cons.inj h).2
  obtain rfl := (List.cons.inj (List.cons.inj h).2).2
  rfl

namespace Derivation

variable {line front : Text} {parts other : Parts}

theorem line_eq_text (h : Derivation line front parts) : line = front ++ parts.text := by
  rw [h.line_eq]
  simp [Parts.text]

theorem of_text (hparts : parts.Valid) (h : line = front ++ parts.text) :
    Derivation line front parts where
  valid := hparts
  line_eq := by
    rw [h]
    simp [Parts.text]

theorem unique (h : Derivation line front parts) (hother : Derivation line front other) :
    parts = other :=
  Parts.eq_of_text_eq h.valid hother.valid
    (List.append_cancel_left (h.line_eq_text.symm.trans hother.line_eq_text))

/-- Where a finding stands, it is read. -/
theorem here?_drop (h : Derivation line front parts) :
    here? (line.drop front.length) = some parts.record := by
  rw [h.line_eq_text, List.drop_left, here?_text h.valid]

/-- A finding in front of another one would stand further to the left. -/
theorem clear_of_isLeftmost (h : Derivation line front parts) (hleft : IsLeftmost line front) :
    first? front = none := by
  cases hfirst : first? front with
  | none => rfl
  | some record =>
    obtain ⟨path, found, ⟨hvalid, -, hfront⟩, -⟩ := first?_eq_some_iff.1 hfirst
    have hline : line = path ++ { found with rest := found.rest ++ parts.text : Parts }.text := by
      rw [h.line_eq_text, hfront]
      simp [Parts.text]
    have hle := hleft path _ (.of_text (hvalid.withRest _) hline)
    have hlt : path.length < front.length := by
      rw [hfront, List.length_append]
      exact Nat.lt_add_of_pos_right (List.length_pos_iff.2 (List.cons_ne_nil _ _))
    omega

end Derivation

/-- Some way to write a line exists exactly when a finding is read in it. -/
theorem isSome_first?_iff {line : Text} :
    (first? line).isSome = true ↔ ∃ front parts, Derivation line front parts := by
  rw [Option.isSome_iff_exists]
  constructor
  · rintro ⟨record, h⟩
    obtain ⟨front, parts, hfound, -⟩ := first?_eq_some_iff.1 h
    exact ⟨front, parts, .of_text hfound.valid hfound.line_eq⟩
  · rintro ⟨front, parts, h⟩
    cases hfront : first? front with
    | none => exact ⟨_, by rw [h.line_eq_text, first?_append_text h.valid hfront]⟩
    | some record =>
      obtain ⟨found, rest, hfirst, -⟩ := first?_append_text_of_some h.valid hfront
      exact ⟨_, by rw [h.line_eq_text, hfirst]⟩

/-- A line has a finding exactly when it can be written as the grammar says, with each text in front in
one way only.  The finding that is read is the leftmost one: its code as it stands, its message without
white space around it, and its positions as the digits tell them. -/
theorem first?_follows_grammar {line : Text} (hline : '\n' ∉ line) :
    ((first? line).isSome = true ↔ ∃ front parts, Derivation line front parts) ∧
    (∀ front parts other, Derivation line front parts → Derivation line front other →
      parts = other) ∧
    ∀ front parts, Derivation line front parts → IsLeftmost line front →
      ∃ record, first? line = some record ∧ record.code = parts.code ∧
        record.message = Text.trim parts.rest ∧ Tells parts.line record.line ∧
        Tells parts.column record.column := by
  refine ⟨isSome_first?_iff, fun _ _ _ ↦ Derivation.unique, fun front parts h hleft ↦ ?_⟩
  have hread : first? line = some parts.record := by
    rw [h.line_eq_text, first?_append_text h.valid (h.clear_of_isLeftmost hleft)]
  have hrest : '\n' ∉ parts.rest := fun hfeed ↦ hline (by rw [h.line_eq]; simp [hfeed])
  refine ⟨parts.record, hread, rfl, ?_, tells_position _, tells_position _⟩
  rw [Parts.record, Text.takeWhile_of_not_mem hrest]

/-- The first of three numbers is not part of the finding behind it. -/
theorem first?_follows_grammar_overlapping :
    let line := ":1:2:3: E0001: \u00a0x".toList
    let parts : Parts := ⟨"2".toList, "3".toList, "E0001".toList, "\u00a0x".toList⟩
    '\n' ∉ line ∧ Derivation line ":1".toList parts ∧ IsLeftmost line ":1".toList ∧
      first? line = some ⟨2, 3, "E0001".toList, "x".toList⟩ := by
  intro line parts
  have hline : '\n' ∉ line := by decide
  have hnumber {c : Char} (hc : Text.isDigit c = true) : IsNumber [c] :=
    ⟨List.cons_ne_nil c [], fun d hd ↦ List.mem_singleton.1 hd ▸ hc⟩
  have hderivation : Derivation line ":1".toList parts := by
    refine ⟨⟨hnumber rfl, hnumber rfl, 'E', "0001".toList, rfl, rfl, rfl, ?_⟩, rfl⟩
    exact List.all_eq_true.1 rfl
  have hleft : IsLeftmost line ":1".toList := by
    intro front other h
    have hread : (here? (line.drop front.length)).isSome = true := by rw [h.here?_drop]; rfl
    have hnone : ∀ n < ":1".toList.length, (here? (line.drop n)).isSome = false := by decide
    by_contra hshort
    rw [hnone _ (Nat.lt_of_not_le hshort)] at hread
    cases hread
  refine ⟨hline, hderivation, hleft, ?_⟩
  obtain ⟨⟨first, column, code, message⟩, hfirst, hcode, hmessage, hfirstLine, hcolumn⟩ :=
    (first?_follows_grammar hline).2.2 _ _ hderivation hleft
  have hascii : ∀ digits ∈ [parts.line, parts.column], ∀ c ∈ digits, c.isDigit = true := by
    simp [parts]
  have hsmall : ∀ digits ∈ [parts.line, parts.column], decimalValue digits < 2 ^ 32 := by
    simp [parts, decimalValue]
  have hfirst' : first = 2 :=
    UInt32.toNat_inj.1 (hfirstLine.value (hascii _ (by simp)) (hsmall _ (by simp)))
  have hcolumn' : column = 3 :=
    UInt32.toNat_inj.1 (hcolumn.value (hascii _ (by simp)) (hsmall _ (by simp)))
  rw [hfirst, hfirst', hcolumn', show code = _ from hcode, show message = _ from hmessage]
  decide

end CodeRepair.Record
