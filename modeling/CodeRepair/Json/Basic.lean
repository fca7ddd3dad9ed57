import CodeRepair.Text.Basic

/-!
# JSON values

A number is kept as it is written, since what it is worth depends on who reads it.  A string is kept
as its code points; an escape may name half of a surrogate pair, and a string in which one half
stands alone is a value that no text corresponds to.
-/

namespace CodeRepair

/-- A JSON value. -/
inductive Json
  | null
  | bool (value : Bool)
  | number (written : Text)
  | string (points : List Nat)
  | array (items : List Json)
  | object (fields : List (List Nat × Json))
  deriving Repr

namespace Json

/-- Whether a code point is the first half of a surrogate pair. -/
def isHigh (point : Nat) : Bool :=
  0xD800 ≤ point && point < 0xDC00

/-- Whether a code point is the second half of a surrogate pair. -/
def isLow (point : Nat) : Bool :=
  0xDC00 ≤ point && point < 0xE000

/-- One step of reading code points as a text: the first half of a pair that waits for its second
half, and the text so far, the last character first. -/
def pairStep : Option (Option Nat × Text) → Nat → Option (Option Nat × Text)
  | none, _ => none
  | some (some high, text), point =>
    if isLow point then
      some (none, Char.ofNat (0x10000 + (high - 0xD800) * 0x400 + (point - 0xDC00)) :: text)
    else none
  | some (none, text), point =>
    if isHigh point then some (some point, text)
    else if isLow point then none
    else some (none, Char.ofNat point :: text)

/-- The text of a list of code points, if each half of a pair stands beside the other. -/
def text? (points : List Nat) : Option Text :=
  match points.foldl pairStep (some (none, [])) with
  | some (none, text) => some text.reverse
  | _ => none

/-- The code points of a text. -/
def points (text : Text) : List Nat :=
  text.map Char.toNat

/-- A text as a value. -/
def ofText (text : Text) : Json :=
  .string (points text)

/-- A natural number as a value. -/
def ofNat (n : Nat) : Json :=
  .number (Text.ofNat n)

/-- The values of the fields of a given name, in order. -/
def fieldsOf (name : Text) (fields : List (List Nat × Json)) : List Json :=
  (fields.filter fun field ↦ field.1 == points name).map Prod.snd

end Json

end CodeRepair
