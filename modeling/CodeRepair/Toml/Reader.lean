import CodeRepair.Toml.Outline
import CodeRepair.Toml.Scalar
import CodeRepair.Toml.Unquoted

/-!
# Reading TOML

A document is a list of lines; each is blank, an entry, or the header of a table.  Values between
brackets and braces go over as many lines as they like and may be nested eighty deep; a key is on
one line and has at most eighty parts.  Each step of the reader consumes a character, so the length
of the text bounds their number.
-/

namespace CodeRepair.Toml

/-! ## White space and comments -/

/-- A text from its first character on that is not white space inside a line. -/
def skipSpace (text : Text) : Text :=
  text.dropWhile isSpace

/-- A text from its first character on that is neither white space nor part of a comment; the text
may begin inside a comment.  Comments hold no control characters. -/
def skipLines? : Bool → Text → Option Text
  | _, [] => some []
  | _, '\n' :: text => skipLines? false text
  | _, '\r' :: '\n' :: text => skipLines? false text
  | true, c :: text => if isControl c then none else skipLines? true text
  | false, c :: text =>
    if isSpace c then skipLines? false text
    else if c = '#' then skipLines? true text
    else some (c :: text)

/-- Whether a line may end here: at a line end, a comment, or the end of the document. -/
def atLineEnd : Text → Bool
  | [] => true
  | '\r' :: '\n' :: _ => true
  | c :: _ => c == '\n' || c == '#'

/-! ## Keys -/

/-- How deep values are nested at most, and how many parts a key has at most. -/
def greatestDepth : Nat := 80

/-- One part of a key, and the text after it. -/
def readPart? (text : Text) : Option (Text × Text) :=
  match readLine? text with
  | some part => some part
  | none =>
    let part := text.takeWhile isBare
    if part.isEmpty then none else some (part, text.dropWhile isBare)

/-- So many parts of a key at most, and the text after them and the white space. -/
def readParts? : Nat → Text → Option (List Text × Text)
  | 0, _ => none
  | count + 1, text => do
    let (part, text) ← readPart? (skipSpace text)
    match skipSpace text with
    | '.' :: rest =>
      let (parts, text) ← readParts? count rest
      return (part :: parts, text)
    | rest => return ([part], rest)

/-- The parts of a key, and the text after them and the white space. -/
def readKey? (text : Text) : Option (List Text × Text) :=
  readParts? greatestDepth text

/-- The parts of a key between braces, and the text from its value on.  The sign between the two may
be on a line of its own. -/
def readInlineKey? (text : Text) : Option (List Text × Text) := do
  let (path, text) ← readKey? text
  match ← skipLines? false text with
  | '=' :: rest => return (path, ← skipLines? false rest)
  | _ => none

/-! ## Values -/

mutual

/-- The value at the beginning of a text, and the text after it.  The values around it are
counted. -/
def readValue? : Nat → Nat → Text → Option (Toml × Text)
  | 0, _, _ => none
  | fuel + 1, depth, text =>
    match text with
    | '"' :: _ => (readText? text).map fun read ↦ (.string read.1, read.2)
    | '\x27' :: _ => (readText? text).map fun read ↦ (.string read.1, read.2)
    | '[' :: rest => if depth < greatestDepth then readItems? fuel (depth + 1) [] rest else none
    | '{' :: rest => if depth < greatestDepth then readEntries? fuel (depth + 1) [] rest else none
    | _ => readWord? text

/-- The items of an array up to its end.  The items before are given, the last one first. -/
def readItems? : Nat → Nat → List Toml → Text → Option (Toml × Text)
  | 0, _, _, _ => none
  | fuel + 1, depth, before, text =>
    match skipLines? false text with
    | none => none
    | some (']' :: rest) => some (.array before.reverse, rest)
    | some text =>
      match readValue? fuel depth text with
      | none => none
      | some (item, text) =>
        match skipLines? false text with
        | some (',' :: rest) => readItems? fuel depth (item :: before) rest
        | some (']' :: rest) => some (.array (item :: before).reverse, rest)
        | _ => none

/-- The entries of a table between braces up to its end.  The entries before are given, the last one
first. -/
def readEntries? : Nat → Nat → List (List Text × Toml) → Text → Option (Toml × Text)
  | 0, _, _, _ => none
  | fuel + 1, depth, before, text =>
    match skipLines? false text with
    | none => none
    | some ('}' :: rest) => (inlineTable? before.reverse).map fun table ↦ (table, rest)
    | some text =>
      match readInlineKey? text with
      | none => none
      | some (path, text) =>
        match readValue? fuel depth text with
        | none => none
        | some (value, text) =>
          match skipLines? false text with
          | some (',' :: rest) => readEntries? fuel depth ((path, value) :: before) rest
          | some ('}' :: rest) =>
            (inlineTable? ((path, value) :: before).reverse).map fun table ↦ (table, rest)
          | _ => none

end

/-! ## Documents -/

/-- The statement at the beginning of a text, and the text after it. -/
def readStatement? (fuel : Nat) : Text → Option (Statement × Text)
  | '[' :: '[' :: text =>
    match readKey? text with
    | some (path, ']' :: ']' :: rest) => some (.item path, rest)
    | _ => none
  | '[' :: text =>
    match readKey? text with
    | some (path, ']' :: rest) => some (.header path, rest)
    | _ => none
  | text =>
    match readKey? text with
    | some (path, '=' :: rest) =>
      (readValue? fuel 0 (skipSpace rest)).map fun read ↦ (.entry path read.1, read.2)
    | _ => none

/-- The statements of a text, each on its own line. -/
def readStatements? : Nat → List Statement → Text → Option (List Statement)
  | 0, _, _ => none
  | fuel + 1, before, text =>
    match skipLines? false text with
    | none => none
    | some [] => some before.reverse
    | some text =>
      match readStatement? (fuel + 1) text with
      | none => none
      | some (statement, text) =>
        let text := skipSpace text
        if atLineEnd text then readStatements? fuel (statement :: before) text else none

/-- A text without a byte order mark at its beginning. -/
def dropMark : Text → Text
  | '\uFEFF' :: text => text
  | text => text

/-- The entries of a document. -/
def read? (text : Text) : Option Entries :=
  (readStatements? (text.length + 1) [] (dropMark text)).bind Outline.build

end CodeRepair.Toml
