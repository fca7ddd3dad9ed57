import CodeRepair.Decimal.Rounding

/-!
# Numbers of 32 bits

A sign bit, eight bits of exponent and twenty-three bits of fraction.  The greatest exponent is
kept for the infinities and for what is not a number; the least one is that of zero and the
numbers next to it, which have no leading bit of their own.
-/

namespace CodeRepair.Decimal

/-- A binary floating-point number of 32 bits, as its word. -/
structure Single where
  bits : UInt32
  deriving DecidableEq, Repr

namespace Single

/-- The word of a sign, an exponent field and a fraction. -/
def ofFields (negative : Bool) (exponent fraction : Nat) : Single :=
  ⟨UInt32.ofNat ((if negative then Nat.pow 2 31 else 0) + exponent * Nat.pow 2 23 + fraction)⟩

/-- Whether the sign bit is set. -/
def isNegative (x : Single) : Bool :=
  Nat.pow 2 31 ≤ x.bits.toNat

/-- The exponent field. -/
def exponentField (x : Single) : Nat :=
  x.bits.toNat / Nat.pow 2 23 % Nat.pow 2 8

/-- The fraction field. -/
def fraction (x : Single) : Nat :=
  x.bits.toNat % Nat.pow 2 23

/-- Whether a number is finite. -/
def isFinite (x : Single) : Bool :=
  x.exponentField < 255

/-- Whether a word is not a number. -/
def isNaN (x : Single) : Bool :=
  x.exponentField == 255 && x.fraction != 0

/-- The coefficient of a finite number. -/
def coefficient (x : Single) : Nat :=
  if x.exponentField = 0 then x.fraction else Nat.pow 2 23 + x.fraction

/-- The exponent of two of a finite number. -/
def exponent (x : Single) : Int :=
  if x.exponentField = 0 then -149 else (x.exponentField : Int) - 150

/-- The number of a sign and a magnitude of the format of 32 bits. -/
def ofMagnitude (negative : Bool) : Magnitude → Single
  | .finite coefficient exponent =>
    if coefficient < Nat.pow 2 23 then ofFields negative 0 coefficient
    else ofFields negative (exponent + 150).toNat (coefficient - Nat.pow 2 23)
  | .overflow => ofFields negative 255 0

/-- An infinity. -/
def infinity (negative : Bool) : Single :=
  ofFields negative 255 0

/-- A word that is not a number. -/
def nan (negative : Bool) : Single :=
  ofFields negative 255 (Nat.pow 2 22)

/-- The number nearest to an integer. -/
def ofInt (n : Int) : Single :=
  ofMagnitude (n < 0) (single.round n.natAbs 1)

/-- The number that a decimal number gives when it is first rounded to 64 bits. -/
def ofNumeral (number : Numeral) : Single :=
  ofMagnitude number.negative (single.ofMagnitude (double.ofNumeral number))

/-- Whether a number is at least zero and at most a natural number; negative zero is, and what is
not a number is not. -/
def isWithin (x : Single) (bound : Nat) : Bool :=
  x.isFinite && (!x.isNegative || x.coefficient == 0) &&
    x.coefficient * Nat.pow 2 x.exponent.toNat ≤ bound * Nat.pow 2 (-x.exponent).toNat

end Single

end CodeRepair.Decimal
