import CodeRepair.Decimal.Layout
import CodeRepair.Proofs.Json.Numeral

/-!
# Numbers in requests are numerals of JSON

Whatever finite number is laid out for a request, JSON takes it for a number.  The digits themselves do
not matter for that, as long as they begin with a zero for the number zero only.
-/

namespace CodeRepair.Decimal

open Json

/-- Whether digits stand for zero without any power of ten, if they stand for zero. -/
def Digits.IsProper (digits : Digits) : Prop :=
  digits.coefficient = 0 → digits.exponent = 0

/-! ## The digits of a number -/

/-- No number but zero is so near to zero that zero is written for it. -/
theorem Single.coefficient_ne_zero_of_admits {x : Single} (hx : x.coefficient ≠ 0) {decimal : Digits}
    (h : x.admits decimal = true) : decimal.coefficient ≠ 0 := by
  intro hzero
  have hlow : 0 < x.interval.1 := by
    simp only [interval]
    split <;> omega
  -- The lower end of the interval is positive, so zero does not reach it.
  have hpositive (two ten : Nat) : 0 < x.interval.1 * Nat.pow 2 two * Nat.pow 10 ten :=
    Nat.mul_pos (Nat.mul_pos hlow (Nat.pow_pos (by decide))) (Nat.pow_pos (by decide))
  have hbelow := hpositive (x.exponent - 2).toNat (-decimal.exponent).toNat
  simp only [admits, sides, hzero, Nat.zero_mul] at h
  split at h <;>
    · rw [Bool.and_eq_true, decide_eq_true_iff] at h
      omega

theorem Single.isProper_shortest (tie : Tie) (x : Single) : (x.shortest tie).IsProper := by
  unfold shortest
  split
  · exact fun _ ↦ rfl
  · next hx =>
    cases hfound : (List.range 9).findSome? fun n ↦ digitsOfLength? tie x (n + 1) with
    | none => exact fun _ ↦ rfl
    | some digits =>
      obtain ⟨n, -, hn⟩ := List.exists_of_findSome?_eq_some hfound
      exact fun hzero ↦
        absurd hzero (coefficient_ne_zero_of_admits hx (List.find?_some (p := x.admits) hn))

/-! ## Both layouts -/

theorem isDigit_of_mem_zeros {count : Nat} {c : Char} (h : c ∈ List.replicate count '0') :
    c.isDigit = true := by
  obtain rfl := List.eq_of_mem_replicate h
  rfl

/-- Zeros go behind the digits of any number but zero. -/
theorem isWhole_ofNat_append {n count : Nat} (h : n = 0 → count = 0) :
    IsWhole (Text.ofNat n ++ List.replicate count '0') := by
  refine ⟨⟨by simp [Text.ofNat_ne_nil], fun c hc ↦ ?_⟩, fun hzero ↦ ?_⟩
  · exact (List.mem_append.1 hc).elim Text.isDigit_of_mem_digits isDigit_of_mem_zeros
  · by_cases hn : n = 0
    · rw [h hn, hn]
      rfl
    · refine absurd ?_ (Text.head?_ofNat_ne hn)
      rwa [List.head?_append, Option.or_of_isSome] at hzero
      exact List.isSome_head?.2 (Text.ofNat_ne_nil n)

/-- Digits are parted at the point after zeros have been put before them, where there are too few. -/
theorem isWhole_isFraction_padded {n places : Nat} (hn : n ≠ 0) (hplaces : 0 < places) :
    let padded := List.replicate (places + 1 - (Text.ofNat n).length) '0' ++ Text.ofNat n
    IsWhole (padded.take (padded.length - places)) ∧
      IsFraction ('.' :: padded.drop (padded.length - places)) := by
  intro padded
  have hlength : padded.length = max (places + 1) (Text.ofNat n).length := by
    simp only [padded, List.length_append, List.length_replicate]
    omega
  have hdigit (c : Char) (hc : c ∈ padded) : c.isDigit = true :=
    (List.mem_append.1 hc).elim isDigit_of_mem_zeros Text.isDigit_of_mem_digits
  refine ⟨⟨⟨?_, fun c hc ↦ hdigit c (List.mem_of_mem_take hc)⟩, fun hzero ↦ ?_⟩,
    .inr ⟨_, rfl, ?_, fun c hc ↦ hdigit c (List.mem_of_mem_drop hc)⟩⟩
  · rw [← List.length_pos_iff, List.length_take]
    omega
  · by_cases hlong : places < (Text.ofNat n).length
    -- Nothing is padded, and a positive number does not begin with a zero.
    · have hpadded : padded = Text.ofNat n := by
        simp [padded, show places + 1 - (Text.ofNat n).length = 0 by omega]
      rw [hpadded, List.head?_take, if_neg (by omega)] at hzero
      exact absurd hzero (Text.head?_ofNat_ne hn)
    · obtain ⟨count, hcount⟩ : ∃ count, places + 1 - (Text.ofNat n).length = count + 1 :=
        ⟨places - (Text.ofNat n).length, by omega⟩
      rw [show padded.length - places = 1 by omega]
      simp [padded, hcount, List.replicate_succ]
  · rw [← List.length_pos_iff, List.length_drop]
    omega

theorem isNumeral_plain {digits : Digits} (h : digits.IsProper) (isNegative : Bool) :
    IsNumeral ((if isNegative then ['-'] else []) ++ plain true digits) := by
  have hpower : IsPower [] := .inl rfl
  by_cases hexponent : 0 ≤ digits.exponent
  · have hwhole : IsWhole (Text.ofNat digits.coefficient ++
        List.replicate digits.exponent.toNat '0') :=
      isWhole_ofNat_append fun hzero ↦ by rw [h hzero]; rfl
    have hfraction : IsFraction ['.', '0'] := .inr ⟨['0'], rfl, by simp, by simp⟩
    have hparts := isNumeral_of_parts isNegative hwhole hfraction hpower
    simpa [numeral, plain, hexponent] using hparts
  · have hne : digits.coefficient ≠ 0 := fun hzero ↦ hexponent (Int.le_of_eq (h hzero).symm)
    have hplaces : 0 < (-digits.exponent).toNat := by omega
    obtain ⟨hwhole, hfraction⟩ := isWhole_isFraction_padded hne hplaces
    have hparts := isNumeral_of_parts isNegative hwhole hfraction hpower
    simpa [numeral, plain, hexponent] using hparts

theorem isNumeral_scientific (digits : Digits) (isNegative : Bool) :
    IsNumeral ((if isNegative then ['-'] else []) ++ scientific digits) := by
  obtain ⟨c, rest, hwritten, hc, -⟩ := Text.exists_ofNat_eq_cons digits.coefficient
  have hwhole : IsWhole [c] := ⟨⟨by simp, by simpa using hc⟩, by simp⟩
  have hfraction : IsFraction (if rest.isEmpty then [] else '.' :: rest) := by
    cases rest with
    | nil => exact .inl rfl
    | cons d rest =>
      exact .inr ⟨d :: rest, rfl, by simp, fun e he ↦
        Text.isDigit_of_mem_digits (hwritten ▸ List.mem_cons_of_mem c he)⟩
  have hpower (place : Int) :
      IsPower (['e'] ++ (if place < 0 then ['-'] else ['+']) ++ Text.ofNat place.natAbs) := by
    split
    · exact .inr ⟨'e', ['-'], _, rfl, .inl rfl, .inr (.inr rfl), isDigits_ofNat _⟩
    · exact .inr ⟨'e', ['+'], _, rfl, .inl rfl, .inr (.inl rfl), isDigits_ofNat _⟩
  have hparts := isNumeral_of_parts isNegative hwhole hfraction
    (hpower (digits.exponent + ((c :: rest).length - 1 : Nat)))
  unfold scientific
  rw [hwritten]
  simpa [numeral] using hparts

/-- Each finite number is a numeral of JSON as requests hold it. -/
theorem isNumeral_write_request {x : Single} (h : x.isFinite = true) :
    IsNumeral (Layout.request.write x) := by
  have hlaid : Layout.request.magnitude x = plain true (x.shortest .even) ∨
      Layout.request.magnitude x = scientific (x.shortest .even) :=
    ite_eq_or_eq _ _ _
  unfold Layout.write
  rw [if_pos h]
  rcases hlaid with hlaid | hlaid
  · rw [hlaid]
    exact isNumeral_plain (x.isProper_shortest .even) x.isNegative
  · rw [hlaid]
    exact isNumeral_scientific (x.shortest .even) x.isNegative

end CodeRepair.Decimal
