import CodeRepair.Json.Printer
import CodeRepair.Toml.Basic

/-!
# Writing strings in TOML

A string is written in the plainest of four forms that can hold it: between quotation marks, between
apostrophes, and between three of either.  Only the forms with quotation marks have escapes, and
only the forms with three may hold line feeds and the marks themselves.  A string with line feeds
begins on a line of its own, since a line feed directly after the opening marks does not count.
-/

namespace CodeRepair.Toml

/-- Whether a character can be written by an escape only. -/
def needsEscape (c : Char) : Bool :=
  isControl c && c != '\n'

/-- The length of the longest run of a character. -/
def longestRun (sought : Char) (text : Text) : Nat :=
  (text.foldl (fun (longest, current) c ↦
    if c = sought then (max longest (current + 1), current + 1) else (longest, 0))
    ((0, 0) : Nat × Nat)).1

/-- The forms of a string. -/
inductive Form
  /-- Between quotation marks. -/
  | basic
  /-- Between apostrophes. -/
  | literal
  /-- Between three quotation marks. -/
  | basicLines
  /-- Between three apostrophes. -/
  | literalLines
  deriving DecidableEq, Repr

/-- The form in which a text is written. -/
def Form.ofText (text : Text) : Form :=
  let isPlain := !text.any needsEscape
  let hasLines := text.contains '\n'
  let hasBackslash := text.contains '\\'
  if isPlain && !hasBackslash && !text.contains '"' && !hasLines then basic
  else if isPlain && !text.contains '\x27' && !hasLines then literal
  else if isPlain && !hasBackslash && longestRun '"' text ≤ 2 then basicLines
  else if isPlain && longestRun '\x27' text ≤ 2 then literalLines
  else if hasLines then basicLines
  else basic

/-- Four upper-case hexadecimal digits. -/
def hexDigits (n : Nat) : Text :=
  (Json.hexDigits n).map Char.toUpper

/-- How a character is written between quotation marks, when it is not one itself. -/
def escape (lines : Bool) (c : Char) : Text :=
  if c = '\\' then ['\\', '\\']
  else if c = '\n' then if lines then ['\n'] else ['\\', 'n']
  else if c = '\t' then ['\\', 't']
  else if c = '\r' then ['\\', 'r']
  else if c.toNat = 0x08 then ['\\', 'b']
  else if c.toNat = 0x0C then ['\\', 'f']
  else if isControl c then '\\' :: 'u' :: hexDigits c.toNat
  else [c]

/-- A text between quotation marks, of which so many may stand side by side without an escape; the
number of those that stand before it is given. -/
def escapeAll (lines : Bool) (allowed : Nat) : Nat → Text → Text
  | _, [] => []
  | before, c :: text =>
    if c = '"' then
      if before < allowed then '"' :: escapeAll lines allowed (before + 1) text
      else '\\' :: '"' :: escapeAll lines allowed 0 text
    else escape lines c ++ escapeAll lines allowed 0 text

/-- The line feed after the opening marks. -/
def opening (text : Text) : Text :=
  if text.contains '\n' then ['\n'] else []

/-- A text written in a form. -/
def Form.write (text : Text) : Form → Text
  | basic => '"' :: escapeAll false 0 0 text ++ ['"']
  | literal => '\x27' :: text ++ ['\x27']
  | basicLines => "\"\"\"".toList ++ opening text ++ escapeAll true 2 0 text ++ "\"\"\"".toList
  | literalLines => "'''".toList ++ opening text ++ text ++ "'''".toList

/-- A text as a string. -/
def quote (text : Text) : Text :=
  (Form.ofText text).write text

end CodeRepair.Toml
