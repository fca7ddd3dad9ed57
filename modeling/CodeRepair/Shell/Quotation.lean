import CodeRepair.Shell.Bytes

/-!
# Quotation marks

Complaints name files and other texts in quotation marks.  A name may be spelled so that a shell reads
it back as one word.
-/

namespace CodeRepair.Shell

/-- A byte as three octal digits behind a backslash. -/
def octalEscape (b : UInt8) : Bytes :=
  byte '\\' :: padLeft 3 (byte '0') ((Nat.toDigits 8 b.toNat).map byte)

/-- The escape of a byte that is not printed as it is. -/
def unprintable? (b : UInt8) : Option Bytes :=
  let named : List (UInt8 × Char) :=
    [(7, 'a'), (8, 'b'), (9, 't'), (10, 'n'), (11, 'v'), (12, 'f'), (13, 'r')]
  match named.find? fun entry ↦ entry.1 == b with
  | some entry => some [byte '\\', byte entry.2]
  | none => if b < 0x20 || 0x7F ≤ b then some (octalEscape b) else none

/-- A text in single quotation marks, with escapes. -/
def quotedText (text : Bytes) : Bytes :=
  let marked := text.flatMap fun b ↦
    if b = byte '\x27' || b = byte '\\' then [byte '\\', b] else (unprintable? b).getD [b]
  byte '\x27' :: marked ++ [byte '\x27']

/-- Whether a byte of a name has no meaning for a shell. -/
def isPlainByte (b : UInt8) : Bool :=
  isWordByte b || (bytes "%+,-./@]_").contains b

/-- Whether a name may stand without quotation marks. -/
def isPlainName (name : Bytes) : Bool :=
  let isBrace := fun (b : UInt8) ↦ b == byte '\x7b' || b == byte '\x7d'
  match name with
  | [] => false
  | first :: rest =>
    (isPlainByte first || (isBrace first && !rest.isEmpty)) &&
      rest.all fun b ↦ isPlainByte b || isBrace b || b == byte '#' || b == byte '~'

/-- A name as a shell can read it, in quotation marks if asked for or necessary. -/
def quotedName (always : Bool) (name : Bytes) : Bytes :=
  if !always && isPlainName name then name
  else if name.contains (byte '\x27') &&
      name.all fun b ↦ isPlainByte b || b == byte ' ' || b == byte '\x27' || b == byte ':' then
    byte '"' :: name ++ [byte '"']
  else
    let step := fun (state : Bytes × Bool) (b : UInt8) ↦
      match unprintable? b with
      | some escape =>
        (state.1 ++ (if state.2 then [] else bytes "\x27$\x27") ++ escape, true)
      | none =>
        let opened := if state.2 then state.1 ++ bytes "\x27\x27" else state.1
        (opened ++ if b = byte '\x27' then bytes "\x27\\\x27\x27" else [b], false)
    let (marked, _) := name.foldl step (([byte '\x27'], false) : Bytes × Bool)
    marked ++ [byte '\x27']

end CodeRepair.Shell
