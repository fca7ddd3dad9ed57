import CodeRepair.Text.Basic
import CodeRepair.Decimal.Single

/-!
# TOML values

A document is a table, and a table maps keys to values.  Of dates and times it is only kept that
they are there.  Numbers may be of any size; whether they are bounded matters only to those who read
them.
-/

namespace CodeRepair

/-- A number with a point or a power of ten, or one of the names for what no such numeral denotes. -/
inductive Toml.Real
  | numeral (value : Decimal.Numeral)
  | infinity (negative : Bool)
  | nan (negative : Bool)
  deriving DecidableEq, Repr

/-- A TOML value. -/
inductive Toml
  | string (value : Text)
  | integer (value : Int)
  | real (value : Toml.Real)
  | truth (value : Bool)
  | moment
  /-- A word in the form of a number that denotes none. -/
  | unreadable
  | array (items : List Toml)
  | table (entries : List (Text × Toml))
  deriving Repr

namespace Toml

/-- The entries of a table. -/
abbrev Entries := List (Text × Toml)

/-- The value of a key. -/
def find? (key : Text) (entries : Entries) : Option Toml :=
  (entries.find? fun entry ↦ entry.1 == key).map Prod.snd

/-- The number of 32 bits that a real stands for. -/
def Real.single : Real → Decimal.Single
  | numeral value => .ofNumeral value
  | infinity negative => .infinity negative
  | nan negative => .nan negative

/-! ## Bounds of numbers -/

/-- Whether a real is not too great for 64 bits. -/
def Real.isBounded : Real → Bool
  | numeral value => Decimal.double.ofNumeral value != .overflow
  | infinity _ => true
  | nan _ => true

mutual

/-- Whether every number in a value denotes one that is not too great: integers have at most 128 bits
and reals are not too great for 64. -/
def isBounded : Toml → Bool
  | integer n => -(Nat.pow 2 127 : Nat) ≤ n && n < (Nat.pow 2 128 : Nat)
  | real value => value.isBounded
  | unreadable => false
  | array items => areBounded items
  | table entries => entriesBounded entries
  | _ => true

/-- Whether every number in the values is bounded. -/
def areBounded : List Toml → Bool
  | [] => true
  | item :: items => isBounded item && areBounded items

/-- Whether every number in the entries is bounded. -/
def entriesBounded : List (Text × Toml) → Bool
  | [] => true
  | (_, value) :: entries => isBounded value && entriesBounded entries

end

/-! ## Characters -/

/-- The control characters that stand in no comment and no string.  A tab may stand in both. -/
def isControl (c : Char) : Bool :=
  (c.toNat < 0x20 && c != '\t') || c.toNat == 0x7F

/-- White space inside a line. -/
def isSpace (c : Char) : Bool :=
  c == ' ' || c == '\t'

/-- The characters of a key without quotation marks. -/
def isBare (c : Char) : Bool :=
  c.isAlphanum || c == '_' || c == '-'

end Toml

end CodeRepair
