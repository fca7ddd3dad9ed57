import CodeRepair.Json.Printer
import CodeRepair.Json.Reader
import CodeRepair.Text.Utf8

/-!
# Percent encoding

A character that may not stand in a part of an address is written as its UTF-8 bytes, each as a
percent sign and two upper-case hexadecimal digits.
-/

namespace CodeRepair.Web

/-- A byte behind a percent sign. -/
def encodeByte (byte : UInt8) : Text :=
  '%' :: ((Json.hexDigits byte.toNat).drop 2).map Char.toUpper

/-- A text in which some characters are encoded. -/
def percentEncode (isEncoded : Char → Bool) (text : Text) : Text :=
  text.flatMap fun c ↦ if isEncoded c then (Text.encode [c]).flatMap encodeByte else [c]

/-- The bytes of a text in which percent signs stand for bytes. -/
def percentDecode : Text → List UInt8
  | '%' :: a :: b :: text =>
    match Json.hexNumber? [a, b] with
    | some n => UInt8.ofNat n :: percentDecode text
    | none => Text.encode ['%'] ++ percentDecode (a :: b :: text)
  | c :: text => Text.encode [c] ++ percentDecode text
  | [] => []
termination_by text => text.length

/-- The control characters and what lies beyond ASCII. -/
def isControlOrBeyond (c : Char) : Bool :=
  c.toNat < 0x20 || 0x7E < c.toNat

/-- What is encoded in the query of an address. -/
def isEncodedInQuery (c : Char) : Bool :=
  isControlOrBeyond c || c == ' ' || c == '"' || c == '#' || c == '<' || c == '>' || c == '\x27'

/-- What is encoded in the path of an address. -/
def isEncodedInPath (c : Char) : Bool :=
  isControlOrBeyond c || c == ' ' || c == '"' || c == '#' || c == '<' || c == '>' || c == '?' ||
    c == '\x60' || c == '\x7b' || c == '\x7d' || c == '^'

end CodeRepair.Web
