import CodeRepair.Decimal.Single
import Mathlib.Algebra.Order.Field.Power
import Mathlib.Data.Nat.Digits.Defs
import Mathlib.Data.Rat.Cast.Order
import Mathlib.Tactic.FieldSimp
import Mathlib.Tactic.Linarith
import Mathlib.Tactic.Positivity
import Mathlib.Tactic.Ring

/-!
# Numbers of 32 bits have numerals

Rounding to a format leaves the numbers alone that the format holds.  A finite number of 32 bits is a
natural number over a power of two, so a decimal numeral denotes it exactly, and the numeral is read as
that number: the format of 64 bits holds it on the way.
-/

namespace CodeRepair.Decimal

variable {format : Format} {numerator denominator coefficient : Nat} {exponent : Int}

/-! ## Powers of two -/

/-- The two powers of two with natural exponents that stand for one with an integer. -/
theorem zpow_two_eq (exponent : Int) :
    (2 : ℚ) ^ exponent = 2 ^ exponent.toNat / 2 ^ (-exponent).toNat := by
  rw [← zpow_natCast, ← zpow_natCast, ← zpow_sub₀ two_ne_zero]
  congr 1
  omega

theorem log2_bounds {n : Nat} (h : 0 < n) :
    (2 : ℚ) ^ (n.log2 : Int) ≤ n ∧ (n : ℚ) < 2 ^ (n.log2 + 1 : Int) := by
  have hlow := Nat.log2_self_le (Nat.ne_of_gt h)
  have hhigh := @Nat.lt_log2_self n
  constructor
  · rw [zpow_natCast]
    exact_mod_cast hlow
  · exact_mod_cast hhigh

namespace Format

/-- The exponent is that at which a quotient has as many bits as the format keeps. -/
theorem exponentOf_bounds (hnumerator : 0 < numerator) (hdenominator : 0 < denominator)
    (hprecision : 0 < format.precision) :
    (2 : ℚ) ^ (format.exponentOf numerator denominator + format.precision - 1) ≤
        numerator / denominator ∧
      (numerator : ℚ) / denominator <
        2 ^ (format.exponentOf numerator denominator + format.precision) := by
  obtain ⟨hlow, hhigh⟩ := log2_bounds hnumerator
  obtain ⟨hlow', hhigh'⟩ := log2_bounds hdenominator
  have hden : (0 : ℚ) < denominator := by exact_mod_cast hdenominator
  have hlower : (2 : ℚ) ^ ((numerator.log2 : Int) - denominator.log2 - 1) ≤ numerator / denominator := by
    rw [le_div_iff₀ hden]
    calc (2 : ℚ) ^ ((numerator.log2 : Int) - denominator.log2 - 1) * denominator
        ≤ 2 ^ ((numerator.log2 : Int) - denominator.log2 - 1) * 2 ^ (denominator.log2 + 1 : Int) := by
          gcongr
      _ = 2 ^ (numerator.log2 : Int) := by rw [← zpow_add₀ two_ne_zero]; congr 1; omega
      _ ≤ numerator := hlow
  have hupper : (numerator : ℚ) / denominator < 2 ^ ((numerator.log2 : Int) - denominator.log2 + 1) := by
    rw [div_lt_iff₀ hden]
    calc (numerator : ℚ) < 2 ^ (numerator.log2 + 1 : Int) := hhigh
      _ = 2 ^ ((numerator.log2 : Int) - denominator.log2 + 1) * 2 ^ (denominator.log2 : Int) := by
          rw [← zpow_add₀ two_ne_zero]; congr 1; omega
      _ ≤ 2 ^ ((numerator.log2 : Int) - denominator.log2 + 1) * denominator := by gcongr
  -- The test compares the quotient with the power of two in the middle.
  have htest (estimate : Int) :
      numerator * Nat.pow 2 (-estimate).toNat <
          denominator * Nat.pow 2 estimate.toNat * Nat.pow 2 (format.precision - 1) ↔
        (numerator : ℚ) / denominator < 2 ^ (estimate + format.precision - 1) := by
    have hpower : (2 : ℚ) ^ (estimate + format.precision - 1) =
        2 ^ estimate.toNat / 2 ^ (-estimate).toNat * 2 ^ (format.precision - 1) := by
      rw [← zpow_two_eq, ← zpow_natCast, ← zpow_add₀ two_ne_zero]
      congr 1
      omega
    rw [hpower, div_lt_iff₀ hden, div_mul_eq_mul_div, div_mul_eq_mul_div, lt_div_iff₀ (by positivity),
      ← Nat.cast_lt (α := ℚ)]
    simp only [Nat.pow_eq, Nat.cast_mul, Nat.cast_pow, Nat.cast_ofNat]
    rw [mul_comm (denominator : ℚ), mul_right_comm, mul_right_comm]
  unfold exponentOf
  simp only [htest]
  split
  · next h => exact ⟨hlower.trans_eq' (by congr 1; omega), h.trans_eq (by congr 1; omega)⟩
  · next h => exact ⟨not_lt.1 h, hupper.trans_eq (by congr 1; omega)⟩

/-- Whether a format holds a coefficient at an exponent: it has all the bits of the format, or the exponent
is the least one. -/
structure Holds (format : Format) (coefficient : Nat) (exponent : Int) : Prop where
  lt : coefficient < 2 ^ format.precision
  full : 2 ^ (format.precision - 1) ≤ coefficient ∨ exponent = format.least
  least_le : format.least ≤ exponent
  le_greatest : exponent ≤ format.greatest

/-- The exponent of a number that a format holds is the one that rounding chooses. -/
theorem Holds.exponent_eq (h : format.Holds coefficient exponent) (hprecision : 0 < format.precision)
    (hnumerator : 0 < numerator) (hdenominator : 0 < denominator)
    (hvalue : (numerator : ℚ) / denominator = coefficient * 2 ^ exponent) :
    max (format.exponentOf numerator denominator) format.least = exponent := by
  obtain ⟨hlower, hupper⟩ := exponentOf_bounds hnumerator hdenominator hprecision
  rw [hvalue] at hlower hupper
  have hle : format.exponentOf numerator denominator ≤ exponent := by
    have hlt : (coefficient : ℚ) < 2 ^ format.precision := by exact_mod_cast h.lt
    have hpower := calc
      (2 : ℚ) ^ (format.exponentOf numerator denominator + format.precision - 1)
          ≤ coefficient * 2 ^ exponent := hlower
      _ < 2 ^ format.precision * 2 ^ exponent := by gcongr
      _ = 2 ^ (format.precision + exponent) := by rw [zpow_add₀ two_ne_zero, zpow_natCast]
    rw [zpow_lt_zpow_iff_right₀ one_lt_two] at hpower
    omega
  rcases h.full with hfull | hleast
  · have hge : (2 : ℚ) ^ (format.precision - 1) ≤ coefficient := by exact_mod_cast hfull
    have hpower := calc
      (2 : ℚ) ^ (((format.precision - 1 : Nat) : Int) + exponent)
          = 2 ^ (format.precision - 1) * 2 ^ exponent := by rw [zpow_add₀ two_ne_zero, zpow_natCast]
      _ ≤ coefficient * 2 ^ exponent := by gcongr
      _ < 2 ^ (format.exponentOf numerator denominator + format.precision) := hupper
    rw [zpow_lt_zpow_iff_right₀ one_lt_two] at hpower
    have := h.least_le
    omega
  · omega

theorem nearest_mul (h : 0 < denominator) (quotient : Nat) :
    nearest (quotient * denominator) denominator = quotient := by
  simp [nearest, Nat.mul_div_cancel _ h, h]

theorem nearestAt_eq (hdenominator : 0 < denominator)
    (hvalue : (numerator : ℚ) / denominator = coefficient * 2 ^ exponent) :
    nearestAt exponent numerator denominator = coefficient := by
  have hexact : numerator * Nat.pow 2 (-exponent).toNat =
      coefficient * (denominator * Nat.pow 2 exponent.toNat) := by
    have hden : (denominator : ℚ) ≠ 0 := by exact_mod_cast Nat.ne_of_gt hdenominator
    rw [zpow_two_eq, ← mul_div_assoc, div_eq_div_iff hden (by positivity)] at hvalue
    have hnatural : numerator * 2 ^ (-exponent).toNat = coefficient * 2 ^ exponent.toNat * denominator := by
      exact_mod_cast hvalue
    rw [Nat.pow_eq, Nat.pow_eq, hnatural, Nat.mul_assoc, Nat.mul_comm (2 ^ exponent.toNat)]
  have hpos : 0 < denominator * Nat.pow 2 exponent.toNat :=
    Nat.mul_pos hdenominator (Nat.pow_pos (by decide))
  rw [nearestAt, hexact, nearest_mul hpos]

/-- Rounding to a format changes no number that the format holds. -/
theorem Holds.round_eq (h : format.Holds coefficient exponent) (hprecision : 0 < format.precision)
    (hdenominator : 0 < denominator)
    (hvalue : (numerator : ℚ) / denominator = coefficient * 2 ^ exponent) :
    format.round numerator denominator = .finite coefficient exponent := by
  unfold round
  split
  · next hzero =>
    rw [hzero, Nat.cast_zero, zero_div, eq_comm, mul_eq_zero] at hvalue
    obtain rfl : coefficient = 0 := by
      exact_mod_cast hvalue.resolve_right (zpow_ne_zero exponent two_ne_zero)
    rw [h.full.resolve_left (by simp)]
  · next hne =>
    have hlt : coefficient ≠ Nat.pow 2 format.precision := Nat.ne_of_lt h.lt
    simp only [h.exponent_eq hprecision (Nat.pos_of_ne_zero hne) hdenominator hvalue,
      nearestAt_eq hdenominator hvalue, if_neg hlt, if_neg (not_lt.2 h.le_greatest)]

/-- A format holds a number of fewer bits in another form, if its exponents go as far. -/
theorem exists_holds (hprecision : 0 < format.precision) (hlt : coefficient < 2 ^ format.precision)
    (hleast : format.least + format.precision ≤ exponent) (hgreatest : exponent ≤ format.greatest) :
    ∃ held shifted, format.Holds held shifted ∧ (held : ℚ) * 2 ^ shifted = coefficient * 2 ^ exponent := by
  rcases Nat.eq_zero_or_pos coefficient with rfl | hpos
  · exact ⟨0, format.least, ⟨Nat.pow_pos (by decide), .inr rfl, le_rfl, by omega⟩, by simp⟩
  · have hbits : coefficient.log2 < format.precision := (Nat.log2_lt (Nat.ne_of_gt hpos)).2 hlt
    obtain ⟨shift, hshift⟩ := Nat.exists_eq_add_of_lt hbits
    have hlow := Nat.log2_self_le (Nat.ne_of_gt hpos)
    have hhigh := @Nat.lt_log2_self coefficient
    refine ⟨coefficient * 2 ^ shift, exponent - shift, ⟨?_, .inl ?_, by omega, by omega⟩, ?_⟩
    · rw [hshift, Nat.add_right_comm, Nat.pow_add]
      exact Nat.mul_lt_mul_of_pos_right hhigh (Nat.pow_pos (by decide))
    · rw [hshift, Nat.add_sub_cancel, Nat.pow_add]
      exact Nat.mul_le_mul_right _ hlow
    · rw [zpow_sub₀ two_ne_zero, zpow_natCast]
      push_cast
      field_simp

end Format

/-! ## Numbers of 32 bits -/

namespace Single

variable {x : Single}

/-- The decimal numeral that denotes a finite number. -/
def numeral (x : Single) : Numeral where
  negative := x.isNegative
  coefficient := x.coefficient * 2 ^ x.exponent.toNat * 5 ^ (-x.exponent).toNat
  exponent := -(-x.exponent).toNat

theorem holds (h : x.isFinite = true) : single.Holds x.coefficient x.exponent := by
  have hfield : x.exponentField < 255 := of_decide_eq_true h
  have hfraction : x.fraction < 8388608 := Nat.mod_lt _ (by decide)
  unfold coefficient exponent
  split
  · exact ⟨hfraction.trans (by decide), .inr rfl, le_rfl, by decide⟩
  · next hne =>
    refine ⟨?_, .inl ?_, ?_, ?_⟩
    · change 8388608 + x.fraction < 16777216
      omega
    · exact Nat.le_add_right _ _
    · change (-149 : Int) ≤ _
      omega
    · change _ ≤ (104 : Int)
      omega

theorem ofFields_self (x : Single) : ofFields x.isNegative x.exponentField x.fraction = x := by
  have hbits := x.bits.toNat_lt
  have hword : (if x.isNegative then Nat.pow 2 31 else 0) + x.exponentField * Nat.pow 2 23 + x.fraction =
      x.bits.toNat := by
    unfold isNegative exponentField fraction
    change (if decide (2147483648 ≤ x.bits.toNat) = true then 2147483648 else 0) +
      x.bits.toNat / 8388608 % 256 * 8388608 + x.bits.toNat % 8388608 = x.bits.toNat
    simp only [decide_eq_true_eq]
    split <;> omega
  rw [ofFields, hword, UInt32.ofNat_toNat]

/-- A number is made again from its sign, its coefficient and its exponent. -/
theorem ofMagnitude_self (x : Single) :
    ofMagnitude x.isNegative (.finite x.coefficient x.exponent) = x := by
  have hfraction : x.fraction < Nat.pow 2 23 := Nat.mod_lt _ (by decide)
  unfold ofMagnitude coefficient exponent
  by_cases hzero : x.exponentField = 0
  · have hself := x.ofFields_self
    rw [hzero] at hself
    simp only [hzero, if_true, hfraction, hself]
  · have hfull : ¬ Nat.pow 2 23 + x.fraction < Nat.pow 2 23 := by omega
    have hfield : ((x.exponentField : Int) - 150 + 150).toNat = x.exponentField := by omega
    simp only [if_neg hzero, if_neg hfull, hfield, Nat.add_sub_cancel_left, ofFields_self]

/-- The numeral denotes the number. -/
theorem value_numeral (x : Single) :
    ((x.numeral.coefficient * Nat.pow 10 x.numeral.exponent.toNat : Nat) : ℚ) /
        (Nat.pow 10 (-x.numeral.exponent).toNat : Nat) = x.coefficient * 2 ^ x.exponent := by
  have hpositive : x.numeral.exponent.toNat = 0 := by
    change (-((-x.exponent).toNat : Int)).toNat = 0
    omega
  have hnegative : (-x.numeral.exponent).toNat = (-x.exponent).toNat := by
    change (- -((-x.exponent).toNat : Int)).toNat = _
    omega
  rw [hpositive, hnegative, zpow_two_eq, numeral, show (10 : Nat) = 2 * 5 from rfl]
  simp only [Nat.pow_eq, Nat.mul_pow]
  push_cast
  field_simp

theorem coefficient_numeral_lt (h : x.isFinite = true) : x.numeral.coefficient < 10 ^ 145 := by
  obtain ⟨hlt, -, hleast, hgreatest⟩ := x.holds h
  have htwo : 2 ^ x.exponent.toNat ≤ 2 ^ 104 := Nat.pow_le_pow_right (by decide) (by
    change x.exponent ≤ (104 : Int) at hgreatest
    omega)
  have hfive : 5 ^ (-x.exponent).toNat ≤ 5 ^ 149 := Nat.pow_le_pow_right (by decide) (by
    change (-149 : Int) ≤ x.exponent at hleast
    omega)
  calc x.numeral.coefficient ≤ 2 ^ 24 * 2 ^ 104 * 5 ^ 149 :=
        Nat.mul_le_mul (Nat.mul_le_mul (Nat.le_of_lt hlt) htwo) hfive
    _ < 10 ^ 145 := by norm_num

/-- The format of 64 bits holds what the numeral denotes. -/
theorem exists_double_ofNumeral (h : x.isFinite = true) : ∃ held shifted,
    double.ofNumeral x.numeral = .finite held shifted ∧
      (held : ℚ) * 2 ^ shifted = x.coefficient * 2 ^ x.exponent := by
  obtain ⟨hlt, -, hleast, hgreatest⟩ := x.holds h
  have hexists : ∃ held shifted, double.Holds held shifted ∧
      (held : ℚ) * 2 ^ shifted = x.coefficient * 2 ^ x.exponent :=
    Format.exists_holds (by decide) (hlt.trans (by decide)) (hleast.trans' (by decide))
      (hgreatest.trans (by decide))
  obtain ⟨held, shifted, hholds, hvalue⟩ := hexists
  refine ⟨held, shifted, ?_, hvalue⟩
  have hround : double.round (x.numeral.coefficient * Nat.pow 10 x.numeral.exponent.toNat)
      (Nat.pow 10 (-x.numeral.exponent).toNat) = .finite held shifted :=
    hholds.round_eq (by decide) (Nat.pow_pos (by decide)) (x.value_numeral.trans hvalue.symm)
  have hplaces := Nat.toDigits_length 10 _ 145 (by decide) (coefficient_numeral_lt h)
  have hexponent : x.numeral.exponent = -((-x.exponent).toNat : Int) := rfl
  change (-149 : Int) ≤ x.exponent at hleast
  simp only [Format.ofNumeral]
  split
  · next hzero => rwa [hzero, Nat.zero_mul, Format.round, if_pos rfl] at hround
  · rw [if_neg (by omega), if_neg (by omega), hround]

/-- A finite number is read from its numeral. -/
theorem ofNumeral_numeral (h : x.isFinite = true) : ofNumeral x.numeral = x := by
  obtain ⟨held, shifted, hdouble, hvalue⟩ := exists_double_ofNumeral h
  have hround : single.ofMagnitude (.finite held shifted) = .finite x.coefficient x.exponent := by
    refine (x.holds h).round_eq (by decide) (Nat.pow_pos (by decide)) ?_
    rw [← hvalue, zpow_two_eq]
    simp only [Nat.pow_eq]
    push_cast
    ring
  rw [ofNumeral, hdouble, hround]
  exact x.ofMagnitude_self

end Single

end CodeRepair.Decimal
