/-!
# Rounding to binary

A binary format keeps numbers `m * 2 ^ e` with a bounded number of bits in `m` and a bounded range
for `e`.  A positive rational number is rounded to the nearest of them, a tie going to the even
`m`, and overflows when the rounded number would need a greater `e`.  All arithmetic is on natural
numbers and exact.
-/

namespace CodeRepair.Decimal

/-- A number in decimal digits: a sign, a coefficient and a power of ten. -/
structure Numeral where
  negative : Bool
  coefficient : Nat
  exponent : Int
  deriving DecidableEq, Repr

/-- A binary floating-point format. -/
structure Format where
  /-- How many bits a coefficient has at most. -/
  precision : Nat
  /-- The exponent of the numbers closest to zero. -/
  least : Int
  /-- The exponent of the greatest numbers. -/
  greatest : Int

/-- The format of 32 bits. -/
def single : Format := ⟨24, -149, 104⟩

/-- The format of 64 bits. -/
def double : Format := ⟨53, -1074, 971⟩

/-- A magnitude `coefficient * 2 ^ exponent`, or one too great for the format. -/
inductive Magnitude
  | finite (coefficient : Nat) (exponent : Int)
  | overflow
  deriving DecidableEq, Repr

/-- The natural number nearest to a quotient, the even one of two. -/
def nearest (numerator denominator : Nat) : Nat :=
  let quotient := numerator / denominator
  let rest := 2 * (numerator % denominator)
  if rest < denominator then quotient
  else if denominator < rest then quotient + 1
  else quotient + quotient % 2

/-- The natural number nearest to `numerator / denominator / 2 ^ exponent`. -/
def nearestAt (exponent : Int) (numerator denominator : Nat) : Nat :=
  nearest (numerator * Nat.pow 2 (-exponent).toNat) (denominator * Nat.pow 2 exponent.toNat)

namespace Format

/-- The exponent at which a positive quotient has exactly as many bits as the format keeps. -/
def exponentOf (format : Format) (numerator denominator : Nat) : Int :=
  let estimate : Int := numerator.log2 - denominator.log2 - format.precision + 1
  let scaled := numerator * Nat.pow 2 (-estimate).toNat
  if scaled < denominator * Nat.pow 2 estimate.toNat * Nat.pow 2 (format.precision - 1) then
    estimate - 1
  else estimate

/-- The magnitude of the format that is nearest to a quotient. -/
def round (format : Format) (numerator denominator : Nat) : Magnitude :=
  if numerator = 0 then .finite 0 format.least
  else
    let exponent := max (format.exponentOf numerator denominator) format.least
    let coefficient := nearestAt exponent numerator denominator
    let (coefficient, exponent) :=
      if coefficient = Nat.pow 2 format.precision then
        (Nat.pow 2 (format.precision - 1), exponent + 1)
      else (coefficient, exponent)
    if format.greatest < exponent then .overflow else .finite coefficient exponent

/-- The magnitude of the format that is nearest to a decimal number.  Numbers with a leading digit
at or above the four hundredth place overflow every format at hand, and those that begin below the
minus four hundredth place vanish in it. -/
def ofNumeral (format : Format) (number : Numeral) : Magnitude :=
  let places : Int := (Nat.toDigits 10 number.coefficient).length + number.exponent
  if number.coefficient = 0 then .finite 0 format.least
  else if 400 < places then .overflow
  else if places < -400 then .finite 0 format.least
  else format.round (number.coefficient * Nat.pow 10 number.exponent.toNat)
    (Nat.pow 10 (-number.exponent).toNat)

/-- The magnitude of the format that is nearest to a magnitude of another format. -/
def ofMagnitude (format : Format) : Magnitude → Magnitude
  | .finite coefficient exponent =>
    format.round (coefficient * Nat.pow 2 exponent.toNat) (Nat.pow 2 (-exponent).toNat)
  | .overflow => .overflow

end Format

end CodeRepair.Decimal
