import CodeRepair.Json.Reader
import CodeRepair.Toml.Basic

/-!
# Reading strings in TOML

Between quotation marks a backslash begins an escape; between apostrophes it is a character like any
other.  A string within three marks may hold line feeds and up to two marks in a row, also directly
before its end; a backslash at the end of a line takes the white space up to the next character
with it.  The text after the string is what follows its closing marks.
-/

namespace CodeRepair.Toml

/-- The character of a hexadecimal number, if it is one of Unicode. -/
def scalar? (digits : Text) : Option Char :=
  (Json.hexNumber? digits).bind fun n ↦
    if n < 0xD800 || (0xDFFF < n && n < 0x110000) then some (Char.ofNat n) else none

/-- The character that a letter stands for after a backslash. -/
def unescape? : Char → Option Char
  | 'b' => some '\x08'
  | 't' => some '\t'
  | 'n' => some '\n'
  | 'f' => some '\x0C'
  | 'r' => some '\r'
  | 'e' => some '\x1B'
  | '"' => some '"'
  | '\\' => some '\\'
  | _ => none

/-- The text from the next line on that is not blank, after a backslash at the end of a line: the
text begins with the white space after the backslash.  It must hold a line end. -/
def continuation? : Bool → Text → Option Text
  | true, [] => some []
  | false, [] => none
  | _, '\n' :: text => continuation? true text
  | _, '\r' :: '\n' :: text => continuation? true text
  | passed, c :: text =>
    if isSpace c then continuation? passed text else if passed then some (c :: text) else none

/-- The rest of a string between marks, and the text after it.  The characters read before are given,
the last one first. -/
def unquote? (lines : Bool) : Nat → Text → Text → Option (Text × Text)
  | 0, _, _ => none
  | fuel + 1, before, text =>
    match text with
    | [] => none
    | '"' :: rest =>
      if lines then
        match rest with
        | '"' :: '"' :: '"' :: '"' :: rest => some (('"' :: '"' :: before).reverse, rest)
        | '"' :: '"' :: '"' :: rest => some (('"' :: before).reverse, rest)
        | '"' :: '"' :: rest => some (before.reverse, rest)
        | _ => unquote? lines fuel ('"' :: before) rest
      else some (before.reverse, rest)
    | '\\' :: 'x' :: a :: b :: rest =>
      (scalar? [a, b]).bind fun c ↦ unquote? lines fuel (c :: before) rest
    | '\\' :: 'u' :: a :: b :: c :: d :: rest =>
      (scalar? [a, b, c, d]).bind fun c ↦ unquote? lines fuel (c :: before) rest
    | '\\' :: 'U' :: a :: b :: c :: d :: e :: f :: g :: h :: rest =>
      (scalar? [a, b, c, d, e, f, g, h]).bind fun c ↦ unquote? lines fuel (c :: before) rest
    | '\\' :: c :: rest =>
      match unescape? c with
      | some c => unquote? lines fuel (c :: before) rest
      | none =>
        if lines then (continuation? false (c :: rest)).bind (unquote? lines fuel before) else none
    | '\r' :: '\n' :: rest =>
      if lines then unquote? lines fuel ('\n' :: '\r' :: before) rest else none
    | c :: rest =>
      if c == '\\' || (isControl c && !(lines && c == '\n')) then none
      else unquote? lines fuel (c :: before) rest

/-- The rest of a string between apostrophes, and the text after it. -/
def literal? (before : Text) : Text → Option (Text × Text)
  | [] => none
  | '\x27' :: rest => some (before.reverse, rest)
  | c :: rest => if isControl c then none else literal? (c :: before) rest

/-- The rest of a string between three apostrophes, and the text after it. -/
def literalLines? (before : Text) : Text → Option (Text × Text)
  | '\x27' :: '\x27' :: '\x27' :: '\x27' :: '\x27' :: rest =>
    some (('\x27' :: '\x27' :: before).reverse, rest)
  | '\x27' :: '\x27' :: '\x27' :: '\x27' :: rest => some (('\x27' :: before).reverse, rest)
  | '\x27' :: '\x27' :: '\x27' :: rest => some (before.reverse, rest)
  | '\r' :: '\n' :: rest => literalLines? ('\n' :: '\r' :: before) rest
  | c :: rest =>
    if isControl c && c != '\n' then none else literalLines? (c :: before) rest
  | [] => none

/-- A text without a line end at its beginning. -/
def dropLineEnd : Text → Text
  | '\n' :: text => text
  | '\r' :: '\n' :: text => text
  | text => text

/-- The string within single marks at the beginning of a text, and the text after it. -/
def readLine? : Text → Option (Text × Text)
  | '"' :: text => unquote? false (text.length + 1) [] text
  | '\x27' :: text => literal? [] text
  | _ => none

/-- The string at the beginning of a text, and the text after it. -/
def readText? : Text → Option (Text × Text)
  | '"' :: '"' :: '"' :: text => unquote? true (text.length + 1) [] (dropLineEnd text)
  | '\x27' :: '\x27' :: '\x27' :: text => literalLines? [] (dropLineEnd text)
  | text => readLine? text

end CodeRepair.Toml
