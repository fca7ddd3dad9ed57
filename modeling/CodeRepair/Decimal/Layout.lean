import CodeRepair.Decimal.Shortest
import CodeRepair.Text.Basic

/-!
# Layouts of a number

The same digits are laid out in three ways: in a listing without a needless point, in a
configuration file always with a fraction, and in a request with a power of ten for very great and
very small numbers.  A layout is a record of these decisions.
-/

namespace CodeRepair.Decimal

/-- How a number is laid out. -/
structure Layout where
  /-- Which of two equally near decimals is written. -/
  tie : Tie
  /-- Whether a whole number is written with a zero after the point. -/
  fraction : Bool
  /-- The least and the greatest place of a leading digit without a power of ten; without bounds
  every number is written so. -/
  bounds : Option (Int × Int)
  /-- What is written for what is not a number. -/
  nan : Text

/-- A number in a listing. -/
def Layout.listing : Layout := ⟨.up, false, none, "NaN".toList⟩

/-- A number in a configuration file. -/
def Layout.configuration : Layout := ⟨.up, true, none, "nan".toList⟩

/-- A number in the body of a request, which holds finite numbers only. -/
def Layout.request : Layout := ⟨.even, true, some (-6, 12), "NaN".toList⟩

/-- Digits without a power of ten. -/
def plain (fraction : Bool) (digits : Digits) : Text :=
  let written := Text.ofNat digits.coefficient
  if 0 ≤ digits.exponent then
    written ++ List.replicate digits.exponent.toNat '0' ++ if fraction then ['.', '0'] else []
  else
    let places := (-digits.exponent).toNat
    let padded := List.replicate (places + 1 - written.length) '0' ++ written
    padded.take (padded.length - places) ++ ['.'] ++ padded.drop (padded.length - places)

/-- Digits with a signed power of ten, one digit before the point. -/
def scientific (digits : Digits) : Text :=
  let written := Text.ofNat digits.coefficient
  let place := digits.exponent + (written.length - 1 : Nat)
  let rest := written.drop 1
  written.take 1 ++ (if rest.isEmpty then [] else '.' :: rest) ++ ['e'] ++
    (if place < 0 then ['-'] else ['+']) ++ Text.ofNat place.natAbs

namespace Layout

/-- The text of the magnitude of a finite number. -/
def magnitude (layout : Layout) (x : Single) : Text :=
  let digits := x.shortest layout.tie
  let place := digits.exponent + ((Text.ofNat digits.coefficient).length - 1 : Nat)
  let isPlain := digits.coefficient == 0 || match layout.bounds with
    | none => true
    | some (least, greatest) => least ≤ place && place ≤ greatest
  if isPlain then plain layout.fraction digits else scientific digits

/-- The text of a number. -/
def write (layout : Layout) (x : Single) : Text :=
  let sign := if x.isNegative then ['-'] else []
  if x.isFinite then sign ++ layout.magnitude x
  else if x.isNaN then layout.nan
  else sign ++ "inf".toList

end Layout

end CodeRepair.Decimal
