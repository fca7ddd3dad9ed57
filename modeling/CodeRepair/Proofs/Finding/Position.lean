import CodeRepair.Proofs.Finding.Grammar

/-!
# Positions and the numbers they stand for

The digits of a position may come from any script, and each has its value in the decimal system.  A
position is the number that its digits denote, as far as it fits, if all of them are digits of ASCII.
One other digit among them makes it the greatest position, also when the number would fit.
-/

namespace CodeRepair.Record

/-- The number that decimal digits denote, each with the value that it has in its script. -/
def denoted (digits : Text) : Nat :=
  Nat.ofDigits 10 (digits.reverse.map fun c ↦ (Text.digitValue? c).getD 0)

/-- The greatest position. -/
def greatest : Nat := 2 ^ 32 - 1

theorem denoted_of_ascii {digits : Text} (h : ∀ c ∈ digits, c.isDigit = true) :
    denoted digits = decimalValue digits := by
  refine congrArg (Nat.ofDigits 10) (List.map_congr_left fun c hc ↦ ?_)
  rw [Text.digitValue?_of_ascii (h c (List.mem_reverse.1 hc)), Option.getD_some]

/-! ## One position -/

theorem toNat_position_of_ascii {digits : Text} (h : ∀ c ∈ digits, c.isDigit = true) :
    (position digits).toNat = min (denoted digits) greatest := by
  have htells := tells_position digits
  rw [denoted_of_ascii h, greatest]
  by_cases hsmall : decimalValue digits < 2 ^ 32
  · rw [htells.value h hsmall, Nat.min_eq_left (Nat.le_sub_one_of_lt hsmall)]
  · have hgreat : 2 ^ 32 ≤ decimalValue digits := Nat.le_of_not_lt hsmall
    rw [htells.clamped (.inr hgreat), Nat.min_eq_right (by omega)]

theorem toNat_position_of_other {digits : Text} (h : ∃ c ∈ digits, c.isDigit = false) :
    (position digits).toNat = greatest :=
  (tells_position digits).clamped (.inl h)

/-- A position is the number, as far as it fits, exactly when the digits are those of ASCII or the
number is not below the greatest position. -/
theorem toNat_position_eq_min_iff {digits : Text} :
    (position digits).toNat = min (denoted digits) greatest ↔
      (∀ c ∈ digits, c.isDigit = true) ∨ greatest ≤ denoted digits := by
  by_cases hascii : ∀ c ∈ digits, c.isDigit = true
  · exact iff_of_true (toNat_position_of_ascii hascii) (.inl hascii)
  · have hother : ∃ c ∈ digits, c.isDigit = false := by simpa using hascii
    rw [toNat_position_of_other hother, or_iff_right hascii]
    omega

/-! ## The positions of a finding -/

/-- In front of the leftmost finding of a line there stands no finding further to the left. -/
theorem Found.isLeftmost {line front : Text} {parts : Parts} (h : Found line front parts) :
    IsLeftmost line front := by
  intro other found hother
  refine Nat.le_of_not_lt fun hshort ↦ ?_
  have hline : other ++ found.text = front ++ parts.text :=
    hother.line_eq_text.symm.trans h.line_eq
  -- The finding further to the left would reach into the other one, so it is one without it.
  obtain ⟨gap, rfl, hgap⟩ : ∃ gap, front = other ++ gap ∧ found.text = gap ++ parts.text := by
    rcases List.append_eq_append_iff.1 hline with ⟨gap, hfront, htext⟩ | ⟨gap, hfront, -⟩
    · exact ⟨gap, hfront, htext⟩
    · have hlength := congrArg List.length hfront
      rw [List.length_append] at hlength
      omega
  have hne : gap ≠ [] := by
    rintro rfl
    simp at hshort
  obtain ⟨rest, -, hgapText⟩ := found.exists_rest hother.valid h.valid hne hgap
  have hfront : Derivation (other ++ gap) other { found with rest := rest } :=
    .of_text (hother.valid.withRest rest) (by rw [hgapText])
  have hsome := isSome_first?_iff.2 ⟨other, _, hfront⟩
  rw [h.clear] at hsome
  cases hsome

/-- There is one leftmost place for a finding, and one way to read it there. -/
theorem Derivation.eq_of_isLeftmost {line front other : Text} {parts found : Parts}
    (h : Derivation line front parts) (hleft : IsLeftmost line front)
    (hother : Derivation line other found) (hotherLeft : IsLeftmost line other) :
    other = front ∧ found = parts := by
  have hlength : other.length = front.length :=
    Nat.le_antisymm (hotherLeft front parts h) (hleft other found hother)
  obtain ⟨rfl, -⟩ :=
    List.append_inj (hother.line_eq_text.symm.trans h.line_eq_text) hlength
  exact ⟨rfl, hother.unique h⟩

/-- How a position comes from its digits: it is the number that they denote, as far as it fits,
exactly when they are digits of ASCII or the number does not fit anyway; else it is the greatest
position. -/
structure Clamps (digits : Text) (position : UInt32) : Prop where
  eq_min_iff : position.toNat = min (denoted digits) greatest ↔
    (∀ c ∈ digits, c.isDigit = true) ∨ greatest ≤ denoted digits
  eq_greatest (h : ∃ c ∈ digits, c.isDigit = false) : position.toNat = greatest

theorem clamps_position (digits : Text) : Clamps digits (position digits) :=
  ⟨toNat_position_eq_min_iff, toNat_position_of_other⟩

/-- Wherever a finding is read, the digits of its two positions are those of the leftmost place that
the grammar allows, which is read in one way.  Each position is the number that its digits denote, cut
off at the greatest position, exactly when the digits are those of ASCII or the number is cut off. -/
theorem positions_clamped_iff {line : Text} {record : Record} (h : first? line = some record) :
    ∃ front parts, Derivation line front parts ∧ IsLeftmost line front ∧
      Clamps parts.line record.line ∧ Clamps parts.column record.column ∧
      ∀ other found, Derivation line other found → IsLeftmost line other →
        other = front ∧ found = parts := by
  obtain ⟨front, parts, hfound, rfl⟩ := first?_eq_some_iff.1 h
  have hderivation : Derivation line front parts := .of_text hfound.valid hfound.line_eq
  exact ⟨front, parts, hderivation, hfound.isLeftmost, clamps_position _, clamps_position _,
    fun _ _ ↦ hderivation.eq_of_isLeftmost hfound.isLeftmost⟩

/-- Zeros in front do not count, and a number that is too great becomes the greatest position. -/
theorem positions_clamped_zeros_and_excess :
    let line := "C:\\a.py:0007:99999999999: E0001: huge".toList
    let record : Record := ⟨7, 4294967295, "E0001".toList, "huge".toList⟩
    first? line = some record ∧
      ∃ front parts, Derivation line front parts ∧ IsLeftmost line front ∧
        Clamps parts.line record.line ∧ Clamps parts.column record.column ∧
        ∀ other found, Derivation line other found → IsLeftmost line other →
          other = front ∧ found = parts := by
  intro line record
  have h : first? line = some record := by decide
  exact ⟨h, positions_clamped_iff h⟩

/-- The digit three of another script would fit, and becomes the greatest position all the same. -/
theorem positions_clamped_other_script :
    let line := "a.py:\u0663:1: C0114: doc".toList
    let parts : Parts := ⟨['\u0663'], ['1'], "C0114".toList, "doc".toList⟩
    ∃ record, first? line = some record ∧ Derivation line "a.py".toList parts ∧
      IsLeftmost line "a.py".toList ∧ denoted parts.line = 3 ∧
      record.line.toNat = 4294967295 ∧
      record.line.toNat ≠ min (denoted parts.line) greatest := by
  intro line parts
  have hvalid : parts.Valid := by
    refine ⟨⟨List.cons_ne_nil _ _, List.forall_mem_singleton.2 rfl⟩,
      ⟨List.cons_ne_nil _ _, List.forall_mem_singleton.2 rfl⟩, ?_⟩
    exact ⟨'C', "0114".toList, rfl, rfl, rfl, List.all_eq_true.1 rfl⟩
  have hfound : Found line "a.py".toList parts := ⟨hvalid, rfl, rfl⟩
  have hdenoted : denoted parts.line = 3 := by decide
  refine ⟨⟨4294967295, 1, "C0114".toList, "doc".toList⟩, by decide,
    .of_text hvalid hfound.line_eq, hfound.isLeftmost, hdenoted, rfl, ?_⟩
  rw [hdenoted]
  decide

end CodeRepair.Record
