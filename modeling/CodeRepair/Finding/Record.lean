import CodeRepair.Finding.Severity
import CodeRepair.Text.Blank
import CodeRepair.Text.Digit
import CodeRepair.Text.Line

/-!
# Findings in the output of an analysis tool

A tool prints one finding per line, as `<path>:<line>:<column>: <code>: <message>`, where the code
is one of the letters `A` to `Z` with four decimal digits.  All other output is noise.  A finding is
read at the leftmost place where the rest of the text has this shape, so the path may be anything
that does not itself hold a finding.
-/

namespace CodeRepair

/-- A finding. -/
structure Record where
  /-- The line in the document, counted from one. -/
  line : UInt32
  /-- The column, as the tool counts it. -/
  column : UInt32
  code : Text
  message : Text
  deriving DecidableEq, Repr

namespace Record

/-- The severity that the code of a finding tells. -/
def severity (record : Record) : Severity :=
  .ofCode record.code

/-- A position as printed: a number that is not written in ASCII digits, or that does not fit,
becomes the greatest position. -/
def position (digits : Text) : UInt32 :=
  match Text.asciiNumber? digits with
  | some n => if n < UInt32.size then UInt32.ofNat n else UInt32.ofNat (UInt32.size - 1)
  | none => UInt32.ofNat (UInt32.size - 1)

/-- A run of digits, at least one, and the text after it. -/
def digits? (text : Text) : Option (Text × Text) :=
  let digits := text.takeWhile Text.isDigit
  if digits.isEmpty then none else some (digits, text.dropWhile Text.isDigit)

/-- A code, one letter and four digits, and the text after it. -/
def code? : Text → Option (Text × Text)
  | letter :: a :: b :: c :: d :: rest =>
    if letter.isUpper && [a, b, c, d].all Text.isDigit then
      some ([letter, a, b, c, d], rest)
    else none
  | _ => none

/-- The finding that begins, with its first colon, at the beginning of a text. -/
def here? (text : Text) : Option Record := do
  let text ← Text.dropHead? [':'] text
  let (line, text) ← digits? text
  let text ← Text.dropHead? [':'] text
  let (column, text) ← digits? text
  let text ← Text.dropHead? [':', ' '] text
  let (code, text) ← code? text
  let text ← Text.dropHead? [':', ' '] text
  return {
    line := position line
    column := position column
    code := code
    message := Text.trim (text.takeWhile (· != '\n')) }

/-- The leftmost finding in a text. -/
def first? : Text → Option Record
  | [] => none
  | c :: text =>
    match here? (c :: text) with
    | some record => some record
    | none => first? text

/-- The findings in the output of a tool, in the order of its lines. -/
def parse (output : Text) : List Record :=
  if Text.isAllBlank output then [] else (Text.lines output).filterMap first?

end Record

end CodeRepair
