import CodeRepair.Text.Basic

/-!
# Durations

A duration is written in the greatest unit of which it holds one: seconds with up to three places, or
whole milliseconds.
-/

namespace CodeRepair.Execution

/-- The digits behind the point of so many milliseconds, without zeros at the end. -/
def thousandths (milliseconds : Nat) : Text :=
  let digits := Text.ofNat milliseconds
  let padded := List.replicate (3 - digits.length) '0' ++ digits
  (padded.reverse.dropWhile (· == '0')).reverse

/-- A number of milliseconds as a text. -/
def duration (milliseconds : Nat) : Text :=
  if milliseconds = 0 then "0ns".toList
  else if milliseconds < 1000 then Text.ofNat milliseconds ++ "ms".toList
  else
    let places := thousandths (milliseconds % 1000)
    Text.ofNat (milliseconds / 1000) ++ (if places.isEmpty then [] else '.' :: places) ++ ['s']

end CodeRepair.Execution
