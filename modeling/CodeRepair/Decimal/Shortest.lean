import CodeRepair.Decimal.Single

/-!
# The fewest digits that read back

The reals that round to a number form an interval around it, ends included when the coefficient is
even.  The digits written for the number are the fewest with a decimal in that interval, and of
the decimals with so many digits the nearest.  For each number of digits only the two neighbours of
the number on that decimal grid have to be looked at, in exact arithmetic.
-/

namespace CodeRepair.Decimal

/-- Which of two equally near decimals is written. -/
inductive Tie
  | up
  | even
  deriving DecidableEq, Repr

/-- Digits and the power of ten of the last one. -/
structure Digits where
  coefficient : Nat
  exponent : Int
  deriving DecidableEq, Repr

/-- Both sides of a comparison of `decimal * 10 ^ ten` with `binary * 2 ^ two`, cleared of
denominators. -/
def sides (decimal : Nat) (ten : Int) (binary : Nat) (two : Int) : Nat × Nat :=
  (decimal * Nat.pow 10 ten.toNat * Nat.pow 2 (-two).toNat,
    binary * Nat.pow 2 two.toNat * Nat.pow 10 (-ten).toNat)

namespace Single

/-- Four times the coefficient, and with it the ends of the interval in the same unit.  Below a
power of two the numbers lie twice as dense. -/
def interval (x : Single) : Nat × Nat × Nat :=
  let centre := 4 * x.coefficient
  (if x.coefficient = Nat.pow 2 23 then centre - 1 else centre - 2, centre, centre + 2)

/-- Whether a decimal rounds to a number. -/
def admits (x : Single) (decimal : Digits) : Bool :=
  let (low, _, high) := x.interval
  let unit := x.exponent - 2
  let (a, b) := sides decimal.coefficient decimal.exponent low unit
  let (c, d) := sides decimal.coefficient decimal.exponent high unit
  if x.coefficient % 2 = 0 then b ≤ a && c ≤ d else b < a && c < d

/-- The power of ten of the leading digit of a positive number. -/
def leadingPlace (x : Single) : Int :=
  let place := (List.range 85).find? fun (n : Nat) ↦
    let (a, b) := sides 1 (38 - (n : Int)) x.coefficient x.exponent
    a ≤ b
  38 - (place.getD 84 : Nat)

/-- The decimal of a given number of digits that stands for a number, if one does. -/
def digitsOfLength? (tie : Tie) (x : Single) (length : Nat) : Option Digits :=
  let exponent := x.leadingPlace - length + 1
  let (ten, two) := sides 1 exponent x.coefficient x.exponent
  let below : Digits := ⟨two / ten, exponent⟩
  let above : Digits :=
    if two / ten + 1 = Nat.pow 10 length then ⟨1, exponent + length⟩ else ⟨two / ten + 1, exponent⟩
  let nearer :=
    let rest := 2 * (two % ten)
    if rest < ten then below
    else if ten < rest then above
    else match tie with
      | .up => above
      | .even => if two / ten % 2 = 0 then below else above
  let other := if nearer = below then above else below
  [nearer, other].find? x.admits

/-- The fewest digits that read back as a finite number. -/
def shortest (tie : Tie) (x : Single) : Digits :=
  if x.coefficient = 0 then ⟨0, 0⟩
  else ((List.range 9).findSome? fun n ↦ digitsOfLength? tie x (n + 1)).getD ⟨0, 0⟩

end Single

end CodeRepair.Decimal
