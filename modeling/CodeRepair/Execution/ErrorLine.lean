import CodeRepair.Text.Blank
import CodeRepair.Text.Utf8

/-!
# Lines of error output

Error output is passed on line by line.  Each line is decoded by itself, loses the white space at its
end, and is left out if nothing remains.
-/

namespace CodeRepair.Execution

/-- The byte of a line feed. -/
def lineFeed : UInt8 := 0x0A

/-- One step of `byteLines`, read from the back. -/
def byteLineStep (byte : UInt8) : List (List UInt8) → List (List UInt8)
  | [] => [[byte]]
  | line :: rest => if byte = lineFeed then [byte] :: line :: rest else (byte :: line) :: rest

/-- Bytes cut behind each line feed; the last part has none and may be empty. -/
def byteLines (bytes : List UInt8) : List (List UInt8) :=
  bytes.foldr byteLineStep [[]]

/-- What is passed on for a line of error output, if anything remains of it. -/
def errorLine? (line : List UInt8) : Option Text :=
  let text := Text.trimRight (Text.decodeLenient line)
  if text.isEmpty then none else some text

/-- The lines of error output that are passed on. -/
def errorLines (bytes : List UInt8) : List Text :=
  (byteLines bytes).filterMap errorLine?

end CodeRepair.Execution
