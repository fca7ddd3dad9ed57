import CodeRepair.Shell.Utility.Stream

/-!
# Dumps

`od` shows contents as numbers or characters, block by block, each block with the offset where it
begins.  `cmp` tells where two contents begin to differ.
-/

namespace CodeRepair.Shell

open Work

/-! ## od -/

/-- One form in which a block is shown. -/
structure DumpForm where
  /-- The number of bytes that are shown together. -/
  size : Nat
  /-- The width of a field, without the space in front of it. -/
  width : Nat
  /-- The text of the bytes of a field. -/
  field : Bytes → Bytes
  /-- Whether the block is shown as a text as well. -/
  hasText : Bool := false

namespace DumpForm

/-- The number that bytes denote, the least significant byte first. -/
def valueOf (content : Bytes) : Nat :=
  content.foldr (fun b n ↦ b.toNat + 256 * n) 0

/-- Numbers in a base, filled up with zeros. -/
def inBase (base size width : Nat) : DumpForm :=
  { size, width, field := fun content ↦
      padLeft width (byte '0') (Text.encode (Nat.toDigits base (valueOf content))) }

/-- Decimal numbers, which may be negative. -/
def decimal (isSigned : Bool) (size width : Nat) : DumpForm :=
  let limit := Nat.pow 256 size
  { size, width, field := fun content ↦
      let n := valueOf content
      if isSigned && limit ≤ 2 * n then ofInteger ((n : Int) - limit) else ofNatural n }

/-- Characters, or the spelling of those that cannot be printed. -/
def characters : DumpForm :=
  { size := 1, width := 3, field := fun content ↦
      let b := content.headD 0
      let known : List (UInt8 × Char) :=
        [(0, '0'), (7, 'a'), (8, 'b'), (9, 't'), (10, 'n'), (11, 'v'), (12, 'f'), (13, 'r')]
      match known.find? fun entry ↦ entry.1 == b with
      | some (_, letter) => [byte '\\', byte letter]
      | none =>
        if 0x20 ≤ b && b < 0x7F then [b]
        else padLeft 3 (byte '0') (Text.encode (Nat.toDigits 8 b.toNat)) }

/-- The names of the characters that cannot be printed. -/
def controlNames : List String :=
  ["nul", "soh", "stx", "etx", "eot", "enq", "ack", "bel", "bs", "ht", "nl", "vt", "ff", "cr", "so",
    "si", "dle", "dc1", "dc2", "dc3", "dc4", "nak", "syn", "etb", "can", "em", "sub", "esc", "fs", "gs",
    "rs", "us", "sp"]

/-- Characters by their names, without the highest bit. -/
def names : DumpForm :=
  { size := 1, width := 3, field := fun content ↦
      let b := content.headD 0 % 128
      match controlNames[b.toNat]? with
      | some name => bytes name
      | none => if b = 0x7F then bytes "del" else [b] }

/-- The form of numbers of a kind and a size. -/
def ofKind? (kind : UInt8) (size : Nat) : Option DumpForm :=
  let widths := fun (entries : List (Nat × Nat)) ↦ entries.lookup size
  if kind = byte 'o' then (widths [(1, 3), (2, 6), (4, 11), (8, 22)]).map (inBase 8 size)
  else if kind = byte 'x' then (widths [(1, 2), (2, 4), (4, 8), (8, 16)]).map (inBase 16 size)
  else if kind = byte 'd' then (widths [(1, 4), (2, 6), (4, 11), (8, 20)]).map (decimal true size)
  else (widths [(1, 3), (2, 5), (4, 10), (8, 20)]).map (decimal false size)

/-- The forms that a text names, or what is wrong with it. -/
def read (whole : Bytes) : Nat → Bytes → Except Bytes (List DumpForm)
  | 0, _ => .ok []
  | _, [] => .ok []
  | fuel + 1, kind :: rest => do
    let finish := fun (form : DumpForm) (rest : Bytes) ↦ (do
      let hasText := rest.head? = some (byte 'z')
      return { form with hasText } :: (← read whole fuel (if hasText then rest.drop 1 else rest)) :
        Except Bytes (List DumpForm))
    if kind = byte 'a' then finish names rest
    else if kind = byte 'c' then finish characters rest
    else if (bytes "doux").contains kind then
      let digits := rest.takeWhile isDecimal
      let named : List (Char × Nat) := [('C', 1), ('S', 2), ('I', 4), ('L', 8)]
      let letter? := (rest.head?).bind fun b ↦ named.find? fun entry ↦ byte entry.1 == b
      let (size, rest) :=
        match letter? with
        | some (_, size) => (size, rest.drop 1)
        | none => if digits.isEmpty then (4, rest) else (number 10 digits, rest.drop digits.length)
      match ofKind? kind size with
      | some form => finish form rest
      | none => throw (bytes "invalid type string " ++ quotedText whole ++
          bytes ";\nthis system doesn\x27t provide a " ++ ofNatural size ++ bytes "-byte integral type")
    else throw (bytes "invalid character " ++ quotedText [kind] ++ bytes " in type string " ++
      quotedText whole)

/-- The fields of a block.  What its line lacks to a width is put in front of them, as evenly as it can
be. -/
def fields (form : DumpForm) (blockSize lineWidth : Nat) (block : Bytes) : Bytes :=
  let total := blockSize / form.size
  let surplus := lineWidth - total * (form.width + 1)
  let count := (block.length + form.size - 1) / form.size
  (List.range count).flatMap fun n ↦
    let before := surplus * (total - n) / total
    let after := surplus * (total - n - 1) / total
    let part := (block.drop (n * form.size)).take form.size
    padLeft (form.width + 1 + before - after) (byte ' ') (form.field part)

/-- The line of a block behind its offset. -/
def line (form : DumpForm) (blockSize lineWidth : Nat) (block : Bytes) : Bytes :=
  let text := if form.hasText then
      List.replicate ((blockSize - block.length) / form.size * (form.width + 1)) (byte ' ') ++
        bytes "  >" ++ (block.map fun b ↦ if 0x20 ≤ b && b < 0x7F then b else byte '.') ++ bytes "<"
    else []
  form.fields blockSize lineWidth block ++ text ++ [lineEnd]

end DumpForm

/-- How offsets are shown: their base and the number of digits; nothing if they are not. -/
def offsetText (radix : UInt8) (offset : Nat) : Bytes :=
  let inBase := fun (base width : Nat) ↦
    padLeft width (byte '0') (Text.encode (Nat.toDigits base offset))
  if radix = byte 'd' then inBase 10 7
  else if radix = byte 'x' then inBase 16 6
  else if radix = byte 'o' then inBase 8 7
  else []

/-- The lines of the blocks of a content, of which equal ones that follow each other may be left
out. -/
def dumpBlocks (forms : List DumpForm) (radix : UInt8) (blockSize : Nat) (all : Bool) :
    Nat → Nat → Option Bytes → Bool → Bytes → List Bytes
  | 0, _, _, _, _ => []
  | fuel + 1, offset, previous, isLeftOut, content =>
    if content.isEmpty then
      let last := offsetText radix offset
      if last.isEmpty then [] else [last ++ [lineEnd]]
    else
      let block := content.take blockSize
      let next := dumpBlocks forms radix blockSize all fuel (offset + block.length) (some block)
      let rest := content.drop blockSize
      if !all && block.length = blockSize && previous = some block then
        (if isLeftOut then [] else [bytes "*\n"]) ++ next true rest
      else
        let head := offsetText radix offset
        let lineWidth := (forms.map fun form ↦ blockSize / form.size * (form.width + 1)).foldl max 0
        let lines := (forms.zipIdx).map fun (form, n) ↦
          (if n = 0 then head else List.replicate head.length (byte ' ')) ++
            form.line blockSize lineWidth block
        lines ++ next false rest

/-- The types that letters stand for. -/
def dumpLetters : List (String × String) :=
  [("a", "a"), ("b", "o1"), ("B", "o2"), ("c", "c"), ("d", "u2"), ("h", "x2"), ("H", "x4"), ("i", "d4"),
    ("I", "d8"), ("l", "d8"), ("L", "d8"), ("o", "o2"), ("O", "o4"), ("s", "d2"), ("X", "x4"), ("x", "x2")]

/-- The sources one after the other, as numbers or characters. -/
def od : Utility := do
  let letters := dumpLetters.map fun entry ↦ flag (entry.1.toList.headD 'a') ""
  let options ← options (letters ++ [taking 'A' "address-radix", taking 'N' "read-bytes",
    taking 'j' "skip-bytes", taking 't' "format", flag 'v' "output-duplicates",
    ⟨some 'w', "width", .perhaps⟩]) 1 false
  let radix := ((options.value? "A").getD []).headD (byte 'o')
  if !(bytes "doxn").contains radix then
    fail 1 (bytes "invalid output address radix \x27" ++ [radix] ++
      bytes "\x27; it must be one character from [doxn]")
  let amountOf := fun (key : String) ↦ (do
    match options.value? key with
    | none => return none
    | some value =>
      match amount? value with
      | some amount => return some amount
      | none => fail 1 (bytes "invalid -" ++ bytes key ++ bytes " argument " ++ quotedText value) :
      Work (Option Nat))
  let skipped := (← amountOf "j").getD 0
  let limit ← amountOf "N"
  let mut forms : List DumpForm := []
  for (key, value) in options.given do
    let types := if key = "t" then some value
      else (dumpLetters.find? fun entry ↦ entry.1 == key).map fun entry ↦ bytes entry.2
    match types with
    | none => pure ()
    | some types =>
      match DumpForm.read types (types.length + 1) types with
      | .ok more => forms := forms ++ more
      | .error message => fail 1 message
  if forms.isEmpty then forms := [DumpForm.inBase 8 2 6]
  let least := forms.foldl (fun n form ↦ Nat.lcm n form.size) 1
  let blockSize ← match options.value? "w" with
    | none => pure 16
    | some value =>
      let size := if value.isEmpty then 32 else (amount? value).getD 0
      if size = 0 || size % least != 0 then
        warn (bytes "warning: invalid width " ++ ofNatural size ++ bytes "; using " ++
          ofNatural least ++ bytes " instead")
        pure least
      else pure size
  let parts ← contents (sourceNames options) 1
  if parts.isEmpty then return ()
  let content := parts.flatten
  if content.length < skipped then fail 1 (bytes "cannot skip past end of combined input")
  let content := content.drop skipped
  let content := match limit with
    | some limit => content.take limit
    | none => content
  for line in dumpBlocks forms radix blockSize (options.has "v") (content.length + 1) skipped none false
      content do
    put line

/-! ## cmp -/

/-- How many bytes and lines stand in front of the first place where two contents differ, and the bytes
there; no bytes if one of them ends first. -/
def firstDifference : Nat → Nat → Bytes → Bytes → Nat × Nat × Option (UInt8 × UInt8)
  | offset, lines, a :: as, b :: bs =>
    if a = b then firstDifference (offset + 1) (if a = lineEnd then lines + 1 else lines) as bs
    else (offset, lines, some (a, b))
  | offset, lines, _, _ => (offset, lines, none)

/-- The numbers of bytes that are skipped in front of two contents. -/
def skippedBytes (text : Bytes) : Work (Nat × Nat) := do
  let parts := cutAt (byte ':') text
  match parts.map amount? with
  | [some n] => return (n, n)
  | [some n, some m] => return (n, m)
  | _ =>
    misuse 2 (bytes "invalid --ignore-initial value " ++ quotedText text)

/-- Where two contents differ. -/
def cmp : Utility := do
  let options ← options [flag 'b' "print-bytes", taking 'i' "ignore-initial", flag 'l' "verbose",
    taking 'n' "bytes", flag 's' "quiet", ⟨some 's', "silent", .nothing⟩] 2 false
  let (first, second, skips) ← match options.operands with
    | [] => misuse 2 (bytes "missing operand after \x27cmp\x27")
    | first :: others => pure (first, others.headD (bytes "-"), others.drop 1)
  let (skipped, skippedToo) ← match options.value? "i" with
    | some text => skippedBytes text
    | none => pure (0, 0)
  let skipped ← match skips with
    | text :: _ => do pure (← skippedBytes text).1
    | [] => pure skipped
  let skippedToo ← match skips with
    | _ :: text :: _ => do pure (← skippedBytes text).1
    | _ => pure skippedToo
  let part := fun (name : Bytes) (skipped : Nat) ↦ (do
    match ← readPath name with
    | .ok content =>
      let content := content.drop skipped
      match (options.value? "n").bind amount? with
      | some limit => return content.take limit
      | none => return content
    | .error fault =>
      if options.has "s" then quit 2
      else fail 2 (name ++ bytes ": " ++ Text.encode fault.reason) : Work Bytes)
  if first = second && skipped = skippedToo then return ()
  let a ← part first skipped
  let b ← part second skippedToo
  let (offset, lines, difference) := firstDifference 0 1 a b
  if a != b then setStatus 1
  if options.has "s" then return ()
  let octal := fun (b : UInt8) ↦ padLeft 3 (byte ' ') (Text.encode (Nat.toDigits 8 b.toNat))
  let shown := fun (b : UInt8) ↦
    octal b ++ if !options.has "b" then []
      else if b = lineEnd then bytes " ^J"
      else byte ' ' :: Shown.byte ⟨false, false, false, false, true, true⟩ b
  if options.has "l" then
    let width := (ofNatural (max a.length b.length)).length
    for ((x, y), n) in (a.zip b).zipIdx do
      if x != y then
        putLine (padLeft width (byte ' ') (ofNatural (n + 1)) ++
          byte ' ' :: (if options.has "b" then padRight 8 (byte ' ') (shown x) else shown x) ++
          byte ' ' :: shown y)
  else
    match difference with
    | some (x, y) =>
      putLine (first ++ byte ' ' :: second ++ bytes " differ: " ++
        (if options.has "b" then bytes "byte " else bytes "char ") ++ ofNatural (offset + 1) ++
        bytes ", line " ++ ofNatural lines ++
        if options.has "b" then bytes " is " ++ shown x ++ byte ' ' :: shown y else [])
    | none => pure ()
  if a.length != b.length && (difference.isNone || options.has "l") then
    let (shorter, content) := if a.length < b.length then (first, a) else (second, b)
    warn (bytes "EOF on " ++ shorter ++
      if content.isEmpty then bytes " which is empty"
      else bytes " after byte " ++ ofNatural content.length ++
        if options.has "l" then []
        else if content.getLast? = some lineEnd then bytes ", line " ++ ofNatural (lines - 1)
        else bytes ", in line " ++ ofNatural lines)

end CodeRepair.Shell
