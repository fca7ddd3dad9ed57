import CodeRepair.Json.Printer
import CodeRepair.Proofs.Json.Grammar

/-!
# Compact JSON is read back

A value whose numbers are numerals and whose strings hold code points of Unicode is written on one
line, in one of the ways of the grammar, and so reading gives the same value back.  Both facts hold for values
of any depth and size.
-/

namespace CodeRepair.Json

/-! ## Strings -/

/-- Whether a number is a code point of Unicode, which may be half of a surrogate pair. -/
def IsPoint (point : Nat) : Prop :=
  point < 0x110000

theorem isPoint_toNat (c : Char) : IsPoint c.toNat := by
  have hvalid : c.toNat.isValidChar := c.valid
  unfold IsPoint
  rcases hvalid with h | h <;> omega

theorem isPoint_of_mem_points {text : Text} {point : Nat} (h : point ∈ points text) :
    IsPoint point := by
  obtain ⟨c, -, rfl⟩ := List.mem_map.1 h
  exact isPoint_toNat c

theorem isHexDigit_hexDigit : ∀ n < 16, IsHexDigit (hexDigit n) n := by
  decide

/-- A code point that is written as a character is that of the character. -/
theorem toNat_ofNat {point : Nat} (h : IsPoint point) (hpair : ¬ (0xD800 ≤ point ∧ point < 0xE000)) :
    (Char.ofNat point).toNat = point := by
  have hvalid : point.isValidChar := by
    unfold IsPoint at h
    unfold Nat.isValidChar
    omega
  rw [Char.ofNat, dif_pos hvalid]
  rfl

/-- A code point is written as a backslash and a letter, as a backslash and its number, or as its
character. -/
theorem escape_cases (point : Nat) :
    (∃ letter, escape point = ['\\', letter] ∧ letter ≠ '\n' ∧ (letter, point) ∈ escapeLetters) ∨
    (point < 0x10000 ∧ escape point = '\\' :: 'u' :: hexDigits point) ∨
    (0x20 ≤ point ∧ ¬ (0xD800 ≤ point ∧ point < 0xE000) ∧ point ≠ 0x22 ∧ point ≠ 0x5C ∧
      escape point = [Char.ofNat point]) := by
  have hletter (point : Nat) (letter : Char) (h : escape point = ['\\', letter])
      (hfeed : letter ≠ '\n') (hmem : (letter, point) ∈ escapeLetters) :
      ∃ letter, escape point = ['\\', letter] ∧ letter ≠ '\n' ∧ (letter, point) ∈ escapeLetters :=
    ⟨letter, h, hfeed, hmem⟩
  by_cases h : point ∈ [0x22, 0x5C, 0x08, 0x09, 0x0A, 0x0C, 0x0D]
  · left
    simp only [List.mem_cons, List.not_mem_nil, or_false] at h
    rcases h with rfl | rfl | rfl | rfl | rfl | rfl | rfl <;>
      exact hletter _ _ rfl (by decide) (by decide)
  simp only [List.mem_cons, List.not_mem_nil, or_false, not_or] at h
  by_cases hcoded : point < 0x20 ∨ 0xD800 ≤ point ∧ point < 0xE000
  · right
    left
    refine ⟨by omega, ?_⟩
    simp [escape, h, hcoded]
  · right
    right
    rw [not_or] at hcoded
    refine ⟨by omega, hcoded.2, h.1, h.2.1, ?_⟩
    simp only [escape, h, if_false]
    simp [hcoded]

/-- What is written for a code point is a way to write it. -/
theorem writesPoint_escape {point : Nat} (h : IsPoint point) : WritesPoint point (escape point) := by
  rcases escape_cases point with ⟨letter, he, -, hmem⟩ | ⟨hsmall, he⟩ |
    ⟨hlow, hpair, hquote, hback, he⟩
  · rw [he]
    exact .letter hmem
  · have hdigit (k : Nat) : IsHexDigit (hexDigit (k % 16)) (k % 16) :=
      isHexDigit_hexDigit _ (Nat.mod_lt k (by decide))
    have hsum : ((point / 4096 % 16 * 16 + point / 256 % 16) * 16 + point / 16 % 16) * 16 +
        point % 16 = point := by
      omega
    have hnumber := WritesPoint.number (hdigit (point / 4096)) (hdigit (point / 256))
      (hdigit (point / 16)) (hdigit point)
    rwa [hsum, ← hexDigits, ← he] at hnumber
  · have hnat : (Char.ofNat point).toNat = point := toNat_ofNat h hpair
    have hne (c : Char) (hc : point ≠ c.toNat) : Char.ofNat point ≠ c := by
      rintro rfl
      exact hc hnat.symm
    have hplain := WritesPoint.plain (hnat.symm ▸ hlow) (hne '"' hquote) (hne '\\' hback)
    rwa [hnat, ← he] at hplain

theorem writesString_writeString {points : List Nat} (h : ∀ point ∈ points, IsPoint point) :
    WritesString points (writeString points) := by
  refine ⟨points.flatMap escape, ?_, rfl⟩
  induction points with
  | nil => exact .nil
  | cons point points ih =>
    rw [List.forall_mem_cons] at h
    exact .cons (writesPoint_escape h.1) (ih h.2)

/-! ## Values -/

/-- Whether a value holds only numerals where it holds numbers, and only code points of Unicode in its
strings. -/
inductive IsWritable : Json → Prop
  | null : IsWritable .null
  | bool (value : Bool) : IsWritable (.bool value)
  | number {written : Text} (h : IsNumeral written) : IsWritable (.number written)
  | string {points : List Nat} (h : ∀ point ∈ points, IsPoint point) : IsWritable (.string points)
  | array {items : List Json} (h : ∀ item ∈ items, IsWritable item) : IsWritable (.array items)
  | object {fields : List (List Nat × Json)}
      (hnames : ∀ field ∈ fields, ∀ point ∈ field.1, IsPoint point)
      (h : ∀ field ∈ fields, IsWritable field.2) : IsWritable (.object fields)

theorem isWritable_ofText (text : Text) : IsWritable (.ofText text) :=
  .string fun _ ↦ isPoint_of_mem_points

theorem isWritable_ofNat (n : Nat) : IsWritable (.ofNat n) :=
  .number (isNumeral_ofNat n)

theorem writeAll_eq (items : List Json) : writeAll items = items.map write := by
  induction items with
  | nil => rfl
  | cons item items ih => rw [writeAll, ih, List.map_cons]

theorem writeFields_eq (fields : List (List Nat × Json)) :
    writeFields fields = fields.map fun field ↦ writeString field.1 ++ ':' :: field.2.write := by
  induction fields with
  | nil => rfl
  | cons field fields ih => rw [writeFields, ih, List.map_cons]

/-! ### One line -/

theorem feed_not_mem_escape {point : Nat} (h : IsPoint point) : '\n' ∉ escape point := by
  have hdigit (k : Nat) : '\n' ≠ hexDigit (k % 16) := by
    have hall : ∀ n < 16, '\n' ≠ hexDigit n := by decide
    exact hall _ (Nat.mod_lt k (by decide))
  rcases escape_cases point with ⟨letter, he, hfeed, -⟩ | ⟨-, he⟩ | ⟨hlow, hpair, -, -, he⟩
  · rw [he]
    simp [Ne.symm hfeed]
  · rw [he]
    simp [hexDigits, hdigit]
  · rw [he, List.mem_singleton]
    intro heq
    have hnat := toNat_ofNat h hpair
    rw [← heq] at hnat
    exact absurd hlow (by rw [← hnat]; decide)

theorem feed_not_mem_writeString {points : List Nat} (h : ∀ point ∈ points, IsPoint point) :
    '\n' ∉ writeString points := by
  have hbody : '\n' ∉ points.flatMap escape := by
    intro hfeed
    obtain ⟨point, hpoint, hmem⟩ := List.mem_flatMap.1 hfeed
    exact feed_not_mem_escape (h point hpoint) hmem
  simp [writeString, hbody]

theorem feed_not_mem_join {texts : List Text} (h : ∀ text ∈ texts, '\n' ∉ text) :
    '\n' ∉ Text.join [','] texts := by
  induction texts with
  | nil => exact List.not_mem_nil
  | cons text rest ih =>
    rw [List.forall_mem_cons] at h
    cases rest with
    | nil => simpa using h.1
    | cons next rest =>
      rw [Text.join_cons_cons]
      simp [h.1, ih h.2]

theorem IsDigits.feed_not_mem {digits : Text} (h : IsDigits digits) : '\n' ∉ digits := by
  intro hfeed
  cases h.isDigit '\n' hfeed

theorem IsNumeral.feed_not_mem {written : Text} (h : IsNumeral written) : '\n' ∉ written := by
  obtain ⟨isNegative, whole, fraction, power, hwhole, hfraction, hpower, rfl⟩ := h.exists_parts
  have hsign : '\n' ∉ (if isNegative then ['-'] else [] : Text) := by cases isNegative <;> decide
  have hfractionFeed : '\n' ∉ fraction := by
    rcases hfraction with rfl | ⟨digits, rfl, hdigits⟩
    · exact List.not_mem_nil
    · simp [hdigits.feed_not_mem]
  have hpowerFeed : '\n' ∉ power := by
    rcases hpower with rfl | ⟨mark, sign, digits, rfl, hmark, hsign, hdigits⟩
    · exact List.not_mem_nil
    · rcases hmark with rfl | rfl <;> rcases hsign with rfl | rfl | rfl <;>
        simp [hdigits.feed_not_mem]
  simp [numeral, hsign, hwhole.toIsDigits.feed_not_mem, hfractionFeed, hpowerFeed]

/-- A value is written on one line. -/
theorem IsWritable.feed_not_mem {value : Json} (h : value.IsWritable) : '\n' ∉ value.write := by
  induction h with
  | null => decide
  | bool value => cases value <;> decide
  | number h => simpa [write] using h.feed_not_mem
  | string h => simpa [write] using feed_not_mem_writeString h
  | array _ ih =>
    have hitems := feed_not_mem_join fun text htext ↦ by
      obtain ⟨item, hitem, rfl⟩ := List.mem_map.1 htext
      exact ih item hitem
    simp [write, writeAll_eq, hitems]
  | @object fields hnames _ ih =>
    have hfields : '\n' ∉ Text.join [',']
        (fields.map fun field ↦ writeString field.1 ++ ':' :: field.2.write) := by
      refine feed_not_mem_join fun text htext ↦ ?_
      obtain ⟨field, hfield, rfl⟩ := List.mem_map.1 htext
      have hname := feed_not_mem_writeString (hnames field hfield)
      have hvalue := ih field hfield
      simp [hname, hvalue]
    simp [write, writeFields_eq, hfields]

/-! ### Reading back -/

/-- What is written for a value is a way to write it. -/
theorem IsWritable.spells {value : Json} (h : value.IsWritable) : Spells value value.write := by
  induction h with
  | null => exact .null
  | bool value =>
    cases value with
    | true => exact .true
    | false => exact .false
  | number h =>
    obtain ⟨isNegative, whole, fraction, power, hwhole, hfraction, hpower, rfl⟩ := h.exists_parts
    exact .number isNegative hwhole hfraction hpower
  | string h => exact .string (writesString_writeString h)
  | @array items _ ih =>
    by_cases hne : items = []
    · subst hne
      exact .noItems isSpacing_nil
    · have hspells := @Spells.items (items.map fun item ↦ (item, .bare item.write)) (by simpa using hne)
        (by simpa using ih)
      simpa [write, writeAll_eq, Function.comp_def] using hspells
  | @object fields hnames _ ih =>
    by_cases hne : fields = []
    · subst hne
      exact .noFields isSpacing_nil
    · have hspells := @Spells.fields
        (fields.map fun field ↦ ⟨field.1, field.2, .bare (writeString field.1), .bare field.2.write⟩)
        (by simpa using hne)
        (fun written hwritten ↦ by
          obtain ⟨field, hfield, rfl⟩ := List.mem_map.1 hwritten
          exact writesString_writeString (hnames field hfield))
        (fun written hwritten ↦ by
          obtain ⟨field, hfield, rfl⟩ := List.mem_map.1 hwritten
          exact ih field hfield)
      simpa [write, writeFields_eq, Field.whole, Function.comp_def] using hspells

/-- A text that holds a value only, as it is written, is read as that value. -/
theorem IsWritable.read?_write {value : Json} (h : value.IsWritable) :
    read? value.write = some value := by
  have hread := h.spells.read?_eq isSpacing_nil isSpacing_nil
  rwa [List.nil_append, List.append_nil] at hread

end CodeRepair.Json
