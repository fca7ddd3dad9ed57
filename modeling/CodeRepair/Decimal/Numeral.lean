import CodeRepair.Decimal.Rounding
import CodeRepair.Text.Basic

/-!
# Reading decimal numbers

A numeral is an optional sign, digits, optionally a point with more digits, and optionally a power
of ten after an `e`.
-/

namespace CodeRepair.Decimal.Numeral

/-- The number that ASCII digits denote after other digits. -/
def accumulate (n : Nat) (digits : Text) : Nat :=
  digits.foldl (fun n c ↦ 10 * n + (c.toNat - 0x30)) n

/-- A sign at the beginning of a text, true for a minus, and the text after it. -/
def sign : Text → Bool × Text
  | '-' :: text => (true, text)
  | '+' :: text => (false, text)
  | text => (false, text)

/-- The power of ten at the end of a numeral; nothing is a power of zero. -/
def power? : Text → Option Int
  | [] => some 0
  | c :: text =>
    if c == 'e' || c == 'E' then
      let (negative, digits) := sign text
      if digits.isEmpty || !digits.all Char.isDigit then none
      else
        let n := accumulate 0 digits
        some (if negative then -(n : Int) else n)
    else none

/-- The number that a numeral denotes. -/
def read? (text : Text) : Option Numeral := do
  let (negative, text) := sign text
  let whole := text.takeWhile Char.isDigit
  let text := text.dropWhile Char.isDigit
  if whole.isEmpty then none
  let (fraction, text) ← match text with
    | '.' :: rest =>
      let digits := rest.takeWhile Char.isDigit
      if digits.isEmpty then none else some (digits, rest.dropWhile Char.isDigit)
    | _ => some ([], text)
  let power ← power? text
  return ⟨negative, accumulate (accumulate 0 whole) fraction, power - fraction.length⟩

end CodeRepair.Decimal.Numeral
