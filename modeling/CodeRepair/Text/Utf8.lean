import CodeRepair.Text.Basic

/-!
# UTF-8

Bytes are decoded one at a time.  Between two bytes the decoder remembers at most one unfinished
character: the bits read so far, how many bytes are still missing, and the range of the next byte.
A byte outside that range ends the unfinished character as ill-formed and is read again on its own,
so each maximal ill-formed part counts once.  Reading strictly refuses ill-formed parts; reading
leniently puts the replacement character in their place.
-/

namespace CodeRepair.Text

/-- The bytes of a text. -/
def encode (text : Text) : List UInt8 :=
  text.flatMap String.utf8EncodeChar

/-- A character of which some bytes are still missing. -/
structure Unfinished where
  /-- The bits of the bytes read so far. -/
  bits : Nat
  /-- How many bytes are missing: one, two or three. -/
  missing : Nat
  /-- The range of the next byte. -/
  low : Nat
  high : Nat
  deriving DecidableEq, Repr

/-- What the decoder knows between two bytes: the units decoded so far, the last one first, and the
unfinished character.  A unit is a character, or `none` for an ill-formed part. -/
structure Decoding where
  units : List (Option Char) := []
  unfinished : Option Unfinished := none
  deriving DecidableEq, Repr

namespace Decoding

/-- The decoder with one more unit. -/
def emit (units : List (Option Char)) (unit : Option Char) : Decoding :=
  ⟨unit :: units, none⟩

/-- A byte that begins a character. -/
def start (units : List (Option Char)) (byte : Nat) : Decoding :=
  if byte < 0x80 then emit units (some (Char.ofNat byte))
  else if byte < 0xC2 then emit units none
  else if byte < 0xE0 then ⟨units, some ⟨byte - 0xC0, 1, 0x80, 0xBF⟩⟩
  else if byte < 0xF0 then
    ⟨units, some ⟨byte - 0xE0, 2, if byte = 0xE0 then 0xA0 else 0x80,
      if byte = 0xED then 0x9F else 0xBF⟩⟩
  else if byte < 0xF5 then
    ⟨units, some ⟨byte - 0xF0, 3, if byte = 0xF0 then 0x90 else 0x80,
      if byte = 0xF4 then 0x8F else 0xBF⟩⟩
  else emit units none

/-- The decoder after one more byte. -/
def step (state : Decoding) (byte : UInt8) : Decoding :=
  let byte := byte.toNat
  match state.unfinished with
  | none => start state.units byte
  | some unfinished =>
    if unfinished.low ≤ byte && byte ≤ unfinished.high then
      let bits := 64 * unfinished.bits + (byte - 0x80)
      if unfinished.missing ≤ 1 then emit state.units (some (Char.ofNat bits))
      else ⟨state.units, some ⟨bits, unfinished.missing - 1, 0x80, 0xBF⟩⟩
    else start (none :: state.units) byte

/-- The units of a decoder at the end of its bytes, in order. -/
def finish (state : Decoding) : List (Option Char) :=
  match state.unfinished with
  | none => state.units.reverse
  | some _ => (none :: state.units).reverse

/-- The decoder after a list of bytes. -/
def run (bytes : List UInt8) : Decoding :=
  bytes.foldl step {}

end Decoding

/-- The characters and ill-formed parts of a list of bytes. -/
def decodeUnits (bytes : List UInt8) : List (Option Char) :=
  (Decoding.run bytes).finish

/-- The replacement character. -/
def replacement : Char := '\uFFFD'

/-- The text of a list of bytes, with the replacement character for each ill-formed part. -/
def decodeLenient (bytes : List UInt8) : Text :=
  (decodeUnits bytes).map fun unit ↦ unit.getD replacement

/-- The text of a list of bytes, if they are well-formed. -/
def decode? (bytes : List UInt8) : Option Text :=
  let units := decodeUnits bytes
  if units.all Option.isSome then some (units.filterMap id) else none

end CodeRepair.Text
