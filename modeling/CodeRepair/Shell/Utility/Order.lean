import CodeRepair.Shell.Utility.Stream

/-!
# Ordered lines

`sort` orders lines by keys, which are parts of them that are compared as texts, numbers, months or
versions; lines with equal keys are compared as a whole.  `uniq` and `comm` work on ordered lines.
-/

namespace CodeRepair.Shell

open Work

/-! ## Keys -/

/-- A part of a line by which lines are ordered. -/
structure SortKey where
  /-- The field in which it begins and how many bytes of it are left out, both counted from zero. -/
  field : Nat := 0
  offset : Nat := 0
  /-- The field in which it ends, and how many bytes of that belong to it; zero for all of them. -/
  last : Option (Nat × Nat) := none
  /-- The letters that say how it is compared. -/
  letters : List Char := []
  skipsAtStart : Bool := false
  skipsAtEnd : Bool := false

namespace SortKey

/-- Whether a letter is among those of a key. -/
def has (key : SortKey) (letter : Char) : Bool :=
  key.letters.contains letter

/-- Whether a byte is a space or a tab, or a line feed. -/
def isBlank (b : UInt8) : Bool :=
  b == 0x20 || b == 0x09 || b == lineEnd

/-- What stands behind so many fields of a line. -/
def skipFields (tab : Option UInt8) : Nat → Bytes → Bytes
  | 0, line => line
  | n + 1, line =>
    match tab with
    | some tab => skipFields (some tab) n ((line.dropWhile (· != tab)).drop 1)
    | none => skipFields none n ((line.dropWhile isBlank).dropWhile fun b ↦ !isBlank b)

/-- The part of a line that a key stands for. -/
def part (tab : Option UInt8) (key : SortKey) (line : Bytes) : Bytes :=
  let skip := fun (text : Bytes) ↦ text.dropWhile isBlank
  let start := skipFields tab key.field line
  let start := (if key.skipsAtStart then skip start else start).drop key.offset
  match key.last with
  | none => start
  | some (field, count) =>
    let ends :=
      if count = 0 then
        let after := skipFields tab (field + 1) line
        match tab with
        | some tab =>
          let fields := line.count tab
          line.length - after.length - (if field < fields then 1 else 0)
        | none => line.length - after.length
      else
        let after := skipFields tab field line
        let after := if key.skipsAtEnd then skip after else after
        min line.length (line.length - after.length + count)
    start.take (ends - (line.length - start.length))

end SortKey

/-! ## Comparisons -/

/-- A decimal number as it is written: whether it is negative, its digits in front of the point
without zeros at their beginning, and those behind it without zeros at their end. -/
def decimalOf (text : Bytes) : Bool × Bytes × Bytes :=
  let text := text.dropWhile SortKey.isBlank
  let (negative, text) := if text.head? = some (byte '-') then (true, text.drop 1) else (false, text)
  let whole := text.takeWhile isDecimal
  let rest := text.dropWhile isDecimal
  let places := if rest.head? = some (byte '.') then (rest.drop 1).takeWhile isDecimal else []
  (negative, whole.dropWhile (· == byte '0'),
    (places.reverse.dropWhile (· == byte '0')).reverse)

/-- The order of numbers that are not negative. -/
def compareDigits (a b : Bytes × Bytes) : Ordering :=
  (compare a.1.length b.1.length).then ((compareBytes a.1 b.1).then (compareBytes a.2 b.2))

/-- The order of decimal numbers at the beginnings of texts. -/
def compareDecimals (a b : Bytes) : Ordering :=
  let (aNegative, aDigits) := decimalOf a
  let (bNegative, bDigits) := decimalOf b
  let isZero := fun (digits : Bytes × Bytes) ↦ digits.1.isEmpty && digits.2.isEmpty
  let aNegative := aNegative && !isZero aDigits
  let bNegative := bNegative && !isZero bDigits
  match aNegative, bNegative with
  | false, false => compareDigits aDigits bDigits
  | true, true => compareDigits bDigits aDigits
  | true, false => .lt
  | false, true => .gt

/-- The place of the letter behind a number among those for greater and greater units. -/
def unitOf (text : Bytes) : Nat :=
  let text := text.dropWhile SortKey.isBlank
  let text := if text.head? = some (byte '-') then text.drop 1 else text
  let rest := (text.dropWhile isDecimal)
  let rest := if rest.head? = some (byte '.') then (rest.drop 1).dropWhile isDecimal else rest
  match rest.head? with
  | some b => (((bytes "KMGTPEZYRQ").idxOf? (if b = byte 'k' then byte 'K' else b)).map (· + 1)).getD 0
  | none => 0

/-- One with the sign of a decimal number, or zero. -/
def decimalSign (text : Bytes) : Int :=
  let (negative, whole, places) := decimalOf text
  if whole.isEmpty && places.isEmpty then 0 else if negative then -1 else 1

/-- The order of numbers with units. -/
def compareUnits (a b : Bytes) : Ordering :=
  let aSign := decimalSign a
  let bSign := decimalSign b
  if aSign != bSign then compare aSign bSign
  else
    let byUnit := compare (unitOf a) (unitOf b)
    (if aSign < 0 then byUnit.swap else byUnit).then (compareDecimals a b)

/-- The place of a month among the months, zero for what is none. -/
def monthOf (text : Bytes) : Nat :=
  let name := ((text.dropWhile SortKey.isBlank).take 3).map toCapital
  (((["JAN", "FEB", "MAR", "APR", "MAY", "JUN", "JUL", "AUG", "SEP", "OCT", "NOV", "DEC"].map
    bytes).idxOf? name).map (· + 1)).getD 0

/-- The order of real numbers, behind texts that do not begin with one. -/
def compareReals (a b : Bytes) : Ordering :=
  let real := fun (text : Bytes) ↦
    let text := text.dropWhile SortKey.isBlank
    let (number, _, isAny) := parseReal text
    let negative := text.head? == some (byte '-')
    if !isAny then none
    else
      let q := quotientOf .utility number
      some (if negative then -(q.numerator : Int) else q.numerator, q.denominator)
  match real a, real b with
  | none, none => .eq
  | none, some _ => .lt
  | some _, none => .gt
  | some (p, q), some (r, s) => compare (p * s) (r * q)

/-- How a byte is ordered in versions: a tilde first, then the end, letters and the other ones. -/
def versionRank (b : Option UInt8) : Int :=
  match b with
  | none => 0
  | some b =>
    if b == byte '~' then -1
    else if isDecimal b then 0
    else if isCapital b || isSmall b then b.toNat
    else b.toNat + 256

/-- The order of versions, in which runs of digits count as numbers. -/
def compareVersions : Nat → Bytes → Bytes → Ordering
  | 0, _, _ => .eq
  | fuel + 1, a, b =>
    let aText := a.takeWhile fun c ↦ !isDecimal c
    let bText := b.takeWhile fun c ↦ !isDecimal c
    let ranks := (List.range (max aText.length bText.length)).map fun n ↦
      compare (versionRank aText[n]?) (versionRank bText[n]?)
    let byText := (ranks.find? (· != .eq)).getD .eq
    let aRest := a.drop aText.length
    let bRest := b.drop bText.length
    let digits := fun (text : Bytes) ↦ (text.takeWhile isDecimal).dropWhile (· == byte '0')
    let byNumber := compareDigits (digits aRest, []) (digits bRest, [])
    if byText != .eq then byText
    else if byNumber != .eq then byNumber
    else if aRest.isEmpty && bRest.isEmpty then .eq
    else compareVersions fuel (aRest.dropWhile isDecimal) (bRest.dropWhile isDecimal)

/-- The order of parts of lines by the letters of a key. -/
def SortKey.compare (key : SortKey) (a b : Bytes) : Ordering :=
  let fold := fun (text : Bytes) ↦
    let text := if key.has 'd' then text.filter fun b ↦ isWordByte b || isBlank b else text
    let text := if key.has 'i' then text.filter fun b ↦ 0x20 ≤ b && b < 0x7F else text
    if key.has 'f' then text.map toCapital else text
  let order :=
    if key.has 'n' then compareDecimals a b
    else if key.has 'g' then compareReals a b
    else if key.has 'h' then compareUnits a b
    else if key.has 'M' then Ord.compare (monthOf a) (monthOf b)
    else if key.has 'V' then compareVersions (a.length + b.length + 1) a b
    else compareBytes (fold a) (fold b)
  if key.has 'r' then order.swap else order

/-! ## Reading keys -/

/-- A number of a key, and the text behind it. -/
def keyNumber (what : String) (text : Bytes) : Work (Nat × Bytes) := do
  let digits := text.takeWhile isDecimal
  if digits.isEmpty then
    fail 2 (bytes what ++ bytes ": invalid count at start of " ++ quotedText text)
  else return (number 10 digits, text.dropWhile isDecimal)

/-- The letters that say how keys are compared. -/
def orderLetters : List Char := ['b', 'd', 'f', 'g', 'h', 'i', 'M', 'n', 'R', 'r', 'V']

/-- The letters at the beginning of a text, and what is behind them. -/
def keyLetters (text : Bytes) : List Char × Bytes :=
  let isLetter := fun (b : UInt8) ↦ orderLetters.any fun letter ↦ byte letter == b
  ((text.takeWhile isLetter).map fun b ↦ Char.ofNat b.toNat, text.dropWhile isLetter)

/-- The key that a value of `-k` stands for. -/
def SortKey.read (value : Bytes) : Work SortKey := do
  let refuse := fun (reason : String) ↦
    (fail 2 (bytes reason ++ bytes ": invalid field specification " ++ quotedText value) : Work SortKey)
  let (field, rest) ← keyNumber "invalid number at field start" value
  if field = 0 then return ← refuse "field number is zero"
  let (offset, rest) ←
    if rest.head? = some (byte '.') then
      keyNumber "invalid number after \x27.\x27" (rest.drop 1)
    else pure (1, rest)
  if offset = 0 then return ← refuse "character offset is zero"
  let (first, rest) := keyLetters rest
  let start : SortKey := ⟨field - 1, offset - 1, none, first.filter (· != 'b'), first.contains 'b', false⟩
  match rest with
  | [] => return start
  | comma :: rest =>
    if comma != byte ',' then return ← refuse "stray character in field spec"
    let (last, rest) ← keyNumber "invalid number after \x27,\x27" rest
    if last = 0 then return ← refuse "field number is zero"
    let (count, rest) ←
      if rest.head? = some (byte '.') then
        keyNumber "invalid number after \x27.\x27" (rest.drop 1)
      else pure (0, rest)
    let (second, rest) := keyLetters rest
    if !rest.isEmpty then return ← refuse "stray character in field spec"
    return { start with
      last := some (last - 1, count)
      letters := start.letters ++ second.filter (· != 'b')
      skipsAtEnd := second.contains 'b' }

/-! ## sort -/

/-- The first line that is not in its place, and its number. -/
def firstDisorder (compare : Bytes → Bytes → Ordering) (isStrict : Bool) :
    Nat → List Bytes → Option (Nat × Bytes)
  | n, a :: b :: rest =>
    let order := compare a b
    if order = .gt || (isStrict && order = .eq) then some (n + 1, b)
    else firstDisorder compare isStrict (n + 1) (b :: rest)
  | _, _ => none

/-- Lines of which no two neighbours are equal; the first ones are kept. -/
def dropRepeated (isSame : Bytes → Bytes → Bool) : Option Bytes → List Bytes → List Bytes
  | _, [] => []
  | before, line :: rest =>
    if (before.map fun other ↦ isSame other line).getD false then dropRepeated isSame before rest
    else line :: dropRepeated isSame (some line) rest

/-- Records of a content, without what ends them. -/
def recordsOf (zero : Bool) (content : Bytes) : List Bytes :=
  let separator := if zero then 0 else lineEnd
  match (cutAt separator content).reverse with
  | last :: others => (if last.isEmpty then others else last :: others).reverse
  | [] => []

/-- The lines of the sources in order. -/
def sort : Utility := do
  let options ← options [flag 'b' "ignore-leading-blanks", flag 'd' "dictionary-order",
    flag 'f' "ignore-case", flag 'g' "general-numeric-sort", flag 'h' "human-numeric-sort",
    flag 'i' "ignore-nonprinting", flag 'M' "month-sort", flag 'n' "numeric-sort",
    flag 'R' "random-sort", flag 'r' "reverse", flag 'V' "version-sort", flag 'c' "",
    ⟨none, "check", .perhaps⟩, flag 'C' "", taking 'k' "key", flag 'm' "merge", taking 'o' "output", flag 's' "stable",
    taking 'S' "buffer-size", taking 't' "field-separator", taking 'T' "temporary-directory",
    flag 'u' "unique", flag 'z' "zero-terminated", ⟨none, "parallel", .value⟩,
    ⟨none, "sort", .value⟩, ⟨none, "batch-size", .value⟩] 2 false
  let sorts := (options.values "sort").filterMap fun value ↦
    (["general-numeric", "human-numeric", "month", "numeric", "random", "version"].zip
      ['g', 'h', 'M', 'n', 'R', 'V']).find? (fun entry ↦ value.isPrefixOf (bytes entry.1))
        |>.map Prod.snd
  let letters := (orderLetters.filter fun letter ↦ options.has letter.toString) ++ sorts
  let keys ← (options.values "k").mapM SortKey.read
  let global : SortKey :=
    { letters := letters.filter (· != 'b')
      skipsAtStart := letters.contains 'b', skipsAtEnd := letters.contains 'b' }
  let keys := if keys.isEmpty then (if letters.all fun letter ↦ letter == 'r' then [] else [global])
    else keys.map fun key ↦
      if key.letters.isEmpty && !key.skipsAtStart && !key.skipsAtEnd then
        { key with
          letters := global.letters, skipsAtStart := global.skipsAtStart, skipsAtEnd := global.skipsAtEnd }
      else key
  for key in keys do
    let kinds := ['g', 'h', 'M', 'n', 'R', 'V'].filter key.letters.contains
    let texts := ['d', 'i'].filter key.letters.contains
    if 1 < kinds.length || (!kinds.isEmpty && !texts.isEmpty && kinds != ['V'] && kinds != ['R']) then
      let shown := ['d', 'f', 'g', 'h', 'i', 'M', 'n', 'R', 'V'].filter key.letters.contains
      fail 2 (bytes "options \x27-" ++ Text.encode shown ++ bytes "\x27 are incompatible")
  let tab ← match options.value? "t" with
    | none => pure none
    | some [b] => pure (some b)
    | some [] => fail 2 (bytes "empty tab")
    | some value =>
      if value = bytes "\\0" then pure (some 0)
      else fail 2 (bytes "multi-character tab " ++ quotedText value)
  let byKeys := fun (a b : Bytes) ↦ keys.foldl (fun (order : Ordering) key ↦
    if order = .eq then key.compare (key.part tab a) (key.part tab b) else order) .eq
  let isReversed := letters.contains 'r'
  let compare := fun (a b : Bytes) ↦
    let order := byKeys a b
    if order != .eq || ((options.has "u" || options.has "s") && !keys.isEmpty) then order
    else if isReversed then compareBytes b a else compareBytes a b
  let zero := options.has "z"
  let ender := if zero then 0 else lineEnd
  let names := sourceNames options
  let isQuiet := options.has "C" || (options.value? "check").any fun value ↦
    value = bytes "quiet" || value = bytes "silent"
  let checks := isQuiet || options.has "c" || options.has "check"
  if checks && 1 < names.length then
    fail 2 (bytes "extra operand " ++ quotedText ((names[1]?).getD []) ++ bytes " not allowed with -" ++
      (if options.has "C" then bytes "C" else bytes "c"))
  let contents ← names.mapM fun name ↦ do
    match ← readPath name with
    | .ok content => return content
    | .error fault =>
      fail 2 ((if fault = .isADirectory then bytes "read failed: " else bytes "cannot read: ") ++
        aboutFile name fault)
  let lines := contents.flatMap (recordsOf zero)
  if checks then
    match firstDisorder compare (options.has "u") 1 lines with
    | none => pure ()
    | some (n, line) =>
      if isQuiet then quit 1
      else fail 1 (((names[0]?).getD []) ++ byte ':' :: ofNatural n ++ bytes ": disorder: " ++ line)
  else
    let sorted := lines.mergeSort fun a b ↦ compare a b != .gt
    let sorted := if options.has "u" then dropRepeated (fun a b ↦ compare a b == .eq) none sorted
      else sorted
    let output := sorted.flatMap (· ++ [ender])
    match options.value? "o" with
    | none => put output
    | some path =>
      match ← change fun files ↦ files.write (argument path) output with
      | none => pure ()
      | some fault => fail 2 (bytes "open failed: " ++ aboutFile path fault)

/-! ## uniq -/

/-- Neighbouring lines with the same keys put together. -/
def runsOf (key : Bytes → Bytes) (lines : List Bytes) : List (List Bytes) :=
  lines.foldr (fun line runs ↦
    match runs with
    | (other :: run) :: rest =>
      if key other = key line then (line :: other :: run) :: rest else [line] :: runs
    | _ => [line] :: runs) []

/-- One of each run of lines, with its number or only for some runs. -/
def uniq : Utility := withArguments (fun arguments ↦ arguments.map fun argument ↦
    match argument with
    | hyphen :: first :: rest =>
      if hyphen = byte '-' && isDecimal first then bytes "-f" ++ first :: rest else argument
    | _ => argument) do
  let options ← options [flag 'c' "count", flag 'd' "repeated", flag 'D' "",
    ⟨none, "all-repeated", .perhaps⟩, taking 'f' "skip-fields", flag 'i' "ignore-case",
    taking 's' "skip-chars", flag 'u' "unique", flag 'z' "zero-terminated", taking 'w' "check-chars"]
    1 false
  let amount := fun (key what : String) ↦ (do
    match options.value? key with
    | none => return none
    | some value =>
      match if value.all isDecimal then amount? value else none with
      | some n => return some n
      | none => fail 1 (value ++ bytes ": invalid number of " ++ bytes what) : Work (Option Nat))
  let fields ← amount "f" "fields to skip"
  let chars ← amount "s" "bytes to skip"
  let width ← amount "w" "bytes to compare"
  if 2 < options.operands.length then
    misuse 1 (bytes "extra operand " ++ quotedText ((options.operands[2]?).getD []))
  let all := options.has "D" || options.has "all-repeated"
  if all && options.has "c" then
    misuse 1 (bytes "printing all duplicated lines and repeat counts is meaningless")
  let key := fun (line : Bytes) ↦
    let line := (SortKey.skipFields none (fields.getD 0) line).drop (chars.getD 0)
    let line := match width with
      | some n => line.take n
      | none => line
    if options.has "i" then line.map toSmall else line
  let zero := options.has "z"
  let ender := if zero then 0 else lineEnd
  let name := (sourceNames options).head?.getD []
  match ← readPath name with
  | .error fault =>
    fail 1 (if fault = .isADirectory then bytes "error reading " ++ quotedName true name ++
      bytes ": Is a directory" else aboutFile name fault)
  | .ok content =>
    let runs := (runsOf key (recordsOf zero content)).filter fun run ↦
      (1 < run.length || !(options.has "d" || all)) && (run.length = 1 || !options.has "u")
    let output := runs.flatMap fun run ↦
      if all then run.flatMap (· ++ [ender])
      else (if options.has "c" then padLeft 7 (byte ' ') (ofNatural run.length) ++ [byte ' '] else []) ++
        run.head?.getD [] ++ [ender]
    match options.operands[1]? with
    | none => put output
    | some path =>
      if path = bytes "-" then put output
      else match ← change fun files ↦ files.write (argument path) output with
        | none => pure ()
        | some fault => fail 1 (aboutFile path fault)

/-! ## comm -/

/-- Lines of two lists in order, with the column that each belongs to. -/
def merged : Nat → List Bytes → List Bytes → List (Nat × Bytes)
  | 0, _, _ => []
  | _, [], [] => []
  | _, as, [] => as.map fun a ↦ (1, a)
  | _, [], bs => bs.map fun b ↦ (2, b)
  | fuel + 1, a :: as, b :: bs =>
    match compareBytes a b with
    | .eq => (3, a) :: merged fuel as bs
    | .lt => (1, a) :: merged fuel as (b :: bs)
    | .gt => (2, b) :: merged fuel (a :: as) bs

/-- The lines that stand only in one of two files, and those in both. -/
def comm : Utility := do
  let options ← options [flag '1' "", flag '2' "", flag '3' "", flag 'z' "zero-terminated",
    long "check-order", long "nocheck-order", ⟨none, "output-delimiter", .value⟩, long "total"] 1 false
  match options.operands with
  | [] => misuse 1 (bytes "missing operand")
  | [a] => misuse 1 (bytes "missing operand after " ++ quotedText a)
  | [first, second] =>
    let zero := options.has "z"
    let read := fun (name : Bytes) ↦ (do
      match ← readPath name with
      | .ok content => return recordsOf zero content
      | .error fault => fail 1 (aboutFile name fault) : Work (List Bytes))
    let as ← read first
    let bs ← read second
    let separator := (options.value? "output-delimiter").getD [0x09]
    let shows := fun (column : Nat) ↦ !options.has (toString column)
    let rows := merged (as.length + bs.length) as bs
    let output := rows.flatMap fun row ↦
      if shows row.1 then
        (List.range (row.1 - 1)).flatMap (fun n ↦ if shows (n + 1) then separator else []) ++ row.2 ++
          [if zero then 0 else lineEnd]
      else []
    put output
    let isPaired := rows.all fun row ↦ row.1 == 3
    if !isPaired && !options.has "nocheck-order" then
      let disordered := fun (n : Nat) (lines : List Bytes) ↦ (do
        match firstDisorder compareBytes false 1 lines with
        | some _ =>
          warn (bytes "file " ++ ofNatural n ++ bytes " is not in sorted order")
          return true
        | none => return false : Work Bool)
      let one ← disordered 1 as
      let two ← disordered 2 bs
      if one || two then fail 1 (bytes "input is not in sorted order")
  | _ => misuse 1 (bytes "extra operand " ++ quotedText ((options.operands[2]?).getD []))

end CodeRepair.Shell
