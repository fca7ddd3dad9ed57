import CodeRepair.Proofs.Text.Number
import CodeRepair.Proofs.Toml.Value

/-!
# Numerals with a power of ten

Every decimal number can be written in digits and a power of ten, and what is written so is a word that is
read as that number.
-/

namespace CodeRepair.Toml

open Decimal (Numeral)

/-- A minus, if there is one. -/
def minus (negative : Bool) : Text :=
  if negative then ['-'] else []

/-- The power of ten of a numeral. -/
def writePower (power : Int) : Text :=
  'e' :: (minus (power < 0) ++ Text.ofNat power.natAbs)

/-- A number in digits and a power of ten. -/
def writeNumeral (number : Numeral) : Text :=
  minus number.negative ++ (Text.ofNat number.coefficient ++ writePower number.exponent)

theorem accumulate_ofNat (n : Nat) : Numeral.accumulate 0 (Text.ofNat n) = n := by
  have hread := Text.asciiNumber?_ofNat n
  rwa [Text.asciiNumber?, if_pos (Text.all_isDigit_ofNat n), Option.some_inj] at hread

/-- Both readers take off the minus and nothing else. -/
theorem sign_minus_append (negative : Bool) (n : Nat) (rest : Text) :
    sign (minus negative ++ (Text.ofNat n ++ rest)) = (minus negative, Text.ofNat n ++ rest) ∧
      Numeral.sign (minus negative ++ (Text.ofNat n ++ rest)) = (negative, Text.ofNat n ++ rest) := by
  obtain ⟨c, text, hn, hdigit, -⟩ := Text.exists_ofNat_eq_cons n
  have hplus : c ≠ '+' := by rintro rfl; cases hdigit
  have hminus : c ≠ '-' := by rintro rfl; cases hdigit
  rw [hn]
  cases negative with
  | true => exact ⟨rfl, rfl⟩
  | false => simp [minus, sign, Numeral.sign, hplus, hminus]

theorem power?_writePower (power : Int) : Numeral.power? (writePower power) = some power := by
  have hsign := (sign_minus_append (power < 0) power.natAbs []).2
  rw [List.append_nil] at hsign
  have hdigits : ((Text.ofNat power.natAbs).isEmpty || !(Text.ofNat power.natAbs).all Char.isDigit) = false := by
    rw [List.isEmpty_eq_false_iff.2 (Text.ofNat_ne_nil _), Text.all_isDigit_ofNat]
    rfl
  have hvalue : (if decide (power < 0) = true then -(power.natAbs : Int) else power.natAbs) = power := by
    simp only [decide_eq_true_eq]
    split <;> omega
  simp only [writePower, Numeral.power?, beq_self_eq_true, Bool.true_or, if_true, hsign, hdigits,
    accumulate_ofNat, hvalue]
  rfl

theorem isDigit_head?_writePower (power : Int) : ∀ c ∈ (writePower power).head?, c.isDigit = false := by
  rintro c hc
  cases hc
  rfl

/-- The numeral denotes the number. -/
theorem read?_writeNumeral (number : Numeral) : Numeral.read? (writeNumeral number) = some number := by
  have hsign := (sign_minus_append number.negative number.coefficient (writePower number.exponent)).2
  have hhead := isDigit_head?_writePower number.exponent
  have htake : (Text.ofNat number.coefficient ++ writePower number.exponent).takeWhile Char.isDigit =
      Text.ofNat number.coefficient :=
    Text.takeWhile_run_append (fun _ ↦ Text.isDigit_of_mem_digits) hhead
  have hdrop := Text.dropWhile_ofNat_append number.coefficient hhead
  have hwhole : (Text.ofNat number.coefficient).isEmpty = false :=
    List.isEmpty_eq_false_iff.2 (Text.ofNat_ne_nil _)
  simp only [writeNumeral, Numeral.read?, hsign, htake, hdrop, hwhole, accumulate_ofNat]
  change (Numeral.power? (writePower number.exponent)).bind (fun power ↦
    some (⟨number.negative, number.coefficient, power - 0⟩ : Numeral)) = some number
  rw [power?_writePower, Option.bind_some, Int.sub_zero]

/-- A numeral is made of digits, minuses and an `e`. -/
theorem mem_writeNumeral {number : Numeral} {c : Char} (h : c ∈ writeNumeral number) :
    c.isDigit = true ∨ c = '-' ∨ c = 'e' := by
  have hminus {negative : Bool} (hc : c ∈ minus negative) : c = '-' := by
    unfold minus at hc
    split at hc
    · exact List.mem_singleton.1 hc
    · cases hc
  simp only [writeNumeral, writePower, List.mem_append, List.mem_cons] at h
  rcases h with h | h | rfl | h | h
  · exact .inr (.inl (hminus h))
  · exact .inl (Text.isDigit_of_mem_digits h)
  · exact .inr (.inr rfl)
  · exact .inr (.inl (hminus h))
  · exact .inl (Text.isDigit_of_mem_digits h)

/-! ## The word -/

/-- Behind its first digits a numeral has neither the hyphen of a date nor the colon of a time. -/
theorem isMoment_writeNumeral (number : Numeral) : isMoment (writeNumeral number) = false := by
  have hfield (width : Nat) (hwidth : width ≠ 0) : field? width (writeNumeral number) = none ∨
      ∃ n rest, field? width (writeNumeral number) = some (n, 'e' :: rest) := by
    have hdigits : ∀ c ∈ Text.ofNat number.coefficient, c.isDigit = true :=
      fun _ ↦ Text.isDigit_of_mem_digits
    rw [writeNumeral]
    cases number.negative with
    | true => exact .inl (if_neg hwidth.symm)
    | false =>
      rw [minus, if_neg Bool.false_ne_true, List.nil_append,
        field?_append hdigits (isDigit_head?_writePower _)]
      split
      · exact .inr ⟨_, _, rfl⟩
      · exact .inl rfl
  have hdate : date? (writeNumeral number) = none := by
    rcases hfield 4 (by decide) with h | ⟨n, rest, h⟩ <;>
    · simp only [date?, h]
      rfl
  have htime : time? (writeNumeral number) = none := by
    rcases hfield 2 (by decide) with h | ⟨n, rest, h⟩ <;>
    · simp only [time?, h]
      rfl
  simp [isMoment, hdate, htime]

theorem isReal_writeNumeral (number : Numeral) :
    isReal (Text.ofNat number.coefficient ++ writePower number.exponent) = true := by
  have hdigits (n : Nat) {rest : Text} (hrest : ∀ c ∈ rest.head?, (c.isDigit || c == '_') = false) :
      digits? (Text.ofNat n ++ rest) = some ((Text.ofNat n).length, rest) := by
    have hpart : ∀ c ∈ Text.ofNat n, (c.isDigit || c == '_') = true := fun c hc ↦ by
      rw [Text.isDigit_of_mem_digits hc, Bool.true_or]
    have hcount : (Text.ofNat n).countP Char.isDigit = (Text.ofNat n).length :=
      List.countP_eq_length.2 fun _ ↦ Text.isDigit_of_mem_digits
    simp only [digits?, Text.takeWhile_run_append hpart hrest, Text.dropWhile_run_append hpart hrest, hcount]
    simp [Text.ofNat_ne_nil]
  have hpower : isPower (writePower number.exponent) = true := by
    have hsign := (sign_minus_append (number.exponent < 0) number.exponent.natAbs []).1
    have hread : digits? (Text.ofNat number.exponent.natAbs ++ []) =
        some ((Text.ofNat number.exponent.natAbs).length, []) := hdigits _ nofun
    rw [List.append_nil] at hsign hread
    simp [writePower, isPower, hsign, hread]
  have hlead : (decide (1 < (Text.ofNat number.coefficient).length) &&
      (Text.ofNat number.coefficient ++ writePower number.exponent).head? == some '0') = false := by
    obtain ⟨c, text, hn, -, hzero⟩ := Text.exists_ofNat_eq_cons number.coefficient
    rw [hn, Bool.eq_false_iff, Ne, Bool.and_eq_true, decide_eq_true_iff, beq_iff_eq]
    rintro ⟨hlength, hhead⟩
    simp [hzero (Option.some.inj hhead)] at hlength
  have hfraction : fraction? (writePower number.exponent) = some (writePower number.exponent) := rfl
  have hread : digits? (Text.ofNat number.coefficient ++ writePower number.exponent) =
      some ((Text.ofNat number.coefficient).length, writePower number.exponent) := by
    refine hdigits _ ?_
    rintro c hc
    cases hc
    rfl
  simp only [isReal, hread, hlead, hfraction, Option.map_some, Option.getD_some, hpower]
  rfl

theorem decimal?_writeNumeral (number : Numeral) :
    decimal? (writeNumeral number) = some (.real (.numeral number)) := by
  have hsign := (sign_minus_append number.negative number.coefficient (writePower number.exponent)).1
  have hdrop := Text.dropWhile_ofNat_append number.coefficient (isDigit_head?_writePower number.exponent)
  have hplain : '_' ∉ writeNumeral number := fun hmem ↦ by
    rcases mem_writeNumeral hmem with h | h | h <;> cases h
  have hgroups : ungrouped? Char.isDigit (writeNumeral number) = some (writeNumeral number) := by
    rw [ungrouped?, Text.pieces_of_not_mem hplain]
  have hpower : (writePower number.exponent).any (fun c ↦ c == '.' || c == 'e' || c == 'E') = true := rfl
  have hunsigned : (sign (writeNumeral number)).2 =
      Text.ofNat number.coefficient ++ writePower number.exponent := by rw [writeNumeral, hsign]
  simp only [decimal?, hunsigned, hdrop, hpower, if_true, isReal_writeNumeral, hgroups,
    Option.bind_eq_bind, Option.bind_some, read?_writeNumeral]
  rfl

/-- A numeral with a power of ten is read as the number that it was written for. -/
theorem word?_writeNumeral (number : Numeral) :
    word? (writeNumeral number) = some (.real (.numeral number)) := by
  have hletters : ∀ c ∈ writeNumeral number, c ∉ "tfinxob".toList := by
    intro c hc
    rcases mem_writeNumeral hc with hdigit | rfl | rfl
    · exact not_letter_of_isDigit hdigit
    · decide
    · decide
  rw [word?_eq_decimal? hletters (isMoment_writeNumeral number), decimal?_writeNumeral]

theorem endsLine_writeNumeral (number : Numeral) :
    EndsLine (writeNumeral number) (.real (.numeral number)) := by
  refine IsWord.endsLine (fun c hc ↦ ?_) (word?_writeNumeral number)
  rcases mem_writeNumeral hc with hdigit | rfl | rfl
  · exact isWord_of_isDigit (fun d hd ↦ List.mem_singleton.1 hd ▸ hdigit) c List.mem_cons_self
  · decide
  · decide

end CodeRepair.Toml
