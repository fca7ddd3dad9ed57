import CodeRepair.Proofs.Decimal.Exact

/-!
# Ranges of numbers

A finite number of 32 bits is a rational number.  The infinities and the words that are not a number are
none, so no range of rational numbers holds them.  The test for a range, which compares natural numbers
only, says the same.
-/

namespace CodeRepair.Decimal.Single

/-- The rational number that a word stands for, if it stands for one.  Both zeros stand for zero. -/
def value? (x : Single) : Option ℚ :=
  if x.isFinite then some ((if x.isNegative then -1 else 1) * (x.coefficient * 2 ^ x.exponent)) else none

/-- Natural numbers on both sides of a comparison stand for rational ones. -/
theorem coefficient_le_iff (x : Single) (bound : Nat) :
    x.coefficient * Nat.pow 2 x.exponent.toNat ≤ bound * Nat.pow 2 (-x.exponent).toNat ↔
      (x.coefficient : ℚ) * 2 ^ x.exponent ≤ bound := by
  calc
    _ ↔ (x.coefficient : ℚ) * 2 ^ x.exponent.toNat ≤ bound * 2 ^ (-x.exponent).toNat := by
      rw [Nat.pow_eq, Nat.pow_eq]
      norm_cast
    _ ↔ (x.coefficient : ℚ) * 2 ^ x.exponent.toNat / 2 ^ (-x.exponent).toNat ≤ bound :=
      (div_le_iff₀ (by positivity)).symm
    _ ↔ _ := by rw [zpow_two_eq, mul_div_assoc]

/-- A word is within a range if it stands for a rational number in it, and only then. -/
theorem isWithin_iff {x : Single} {bound : Nat} :
    x.isWithin bound = true ↔ ∃ value, x.value? = some value ∧ 0 ≤ value ∧ value ≤ bound := by
  have hmagnitude : (0 : ℚ) ≤ x.coefficient * 2 ^ x.exponent := by positivity
  simp only [isWithin, Bool.and_eq_true, Bool.or_eq_true, Bool.not_eq_true', beq_iff_eq,
    decide_eq_true_iff, coefficient_le_iff]
  by_cases hfinite : x.isFinite = true
  · cases hsign : x.isNegative with
    | false => simp [value?, hfinite, hsign, hmagnitude]
    | true =>
      have hvalue : x.value? = some (-((x.coefficient : ℚ) * 2 ^ x.exponent)) := by
        simp [value?, hfinite, hsign]
      -- of the negative numbers only the negative zero is not below zero
      have hzero : (0 : ℚ) ≤ -(x.coefficient * 2 ^ x.exponent) ↔ x.coefficient = 0 := by
        rw [neg_nonneg, hmagnitude.ge_iff_eq', mul_eq_zero,
          or_iff_left (zpow_ne_zero x.exponent two_ne_zero), Nat.cast_eq_zero]
      rw [hvalue]
      constructor
      · rintro ⟨⟨-, hsmall⟩, -⟩
        have hcoefficient : x.coefficient = 0 := hsmall.resolve_left nofun
        refine ⟨_, rfl, hzero.2 hcoefficient, ?_⟩
        simp [hcoefficient]
      · rintro ⟨value, heq, hnonneg, -⟩
        obtain rfl := Option.some.inj heq
        have hcoefficient : x.coefficient = 0 := hzero.1 hnonneg
        refine ⟨⟨hfinite, .inr hcoefficient⟩, ?_⟩
        simp [hcoefficient]
  · simp [value?, hfinite]

end CodeRepair.Decimal.Single
