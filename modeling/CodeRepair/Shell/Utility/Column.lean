import CodeRepair.Shell.Utility.Order

/-!
# Columns

Utilities that take lines apart, put them side by side or break them.
-/

namespace CodeRepair.Shell

open Work

/-! ## cut -/

/-- A range of positions, counted from one; without a last one it never ends. -/
structure PositionRange where
  first : Nat
  last : Option Nat
  deriving DecidableEq, Repr

/-- Whether a position is in a range. -/
def PositionRange.admits (range : PositionRange) (n : Nat) : Bool :=
  range.first ≤ n && (range.last.map fun last ↦ decide (n ≤ last)).getD true

/-- A list of ranges. -/
def PositionRange.readList (inFields : Bool) (value : Bytes) : Work (List PositionRange) := do
  let numbered := if inFields then bytes "fields are numbered from 1"
    else bytes "byte/character positions are numbered from 1"
  let invalid := if inFields then bytes "invalid field value " else bytes "invalid byte/character position "
  let position := fun (text : Bytes) ↦ (do
    if !text.all isDecimal then
      misuse 1 (invalid ++ quotedText (text.dropWhile isDecimal))
    else if number 10 text = 0 then misuse 1 numbered
    else return number 10 text : Work Nat)
  ((value.map fun b ↦ if b == byte ' ' || b == 0x09 then byte ',' else b) |> cutAt (byte ',')).mapM
    fun piece ↦ do
      match cutAt (byte '-') piece with
      | [single] =>
        if single.isEmpty then misuse 1 numbered
        let n ← position single
        return ⟨n, some n⟩
      | [first, last] =>
        if first.isEmpty && last.isEmpty then misuse 1 (bytes "invalid range with no endpoint: -")
        let n ← if first.isEmpty then pure 1 else position first
        if last.isEmpty then return ⟨n, none⟩
        let m ← position last
        if m < n then misuse 1 (bytes "invalid decreasing range")
        return ⟨n, some m⟩
      | _ => misuse 1 (invalid ++ quotedText (piece.dropWhile (· != byte '-')))

/-- The items at positions that are meant, with a separator where some were left out between them. -/
def selected (isMeant : Nat → Bool) (begins : Nat → Bool) (separator : Bytes) :
    Nat → Bool → List Bytes → List Bytes
  | _, _, [] => []
  | n, hasAny, item :: rest =>
    if isMeant n then
      (if hasAny && begins n then separator ++ item else item) ::
        selected isMeant begins separator (n + 1) true rest
    else selected isMeant begins separator (n + 1) hasAny rest

/-- Some columns or fields of each line. -/
def cut : Utility := do
  let options ← options [taking 'b' "bytes", taking 'c' "characters", taking 'd' "delimiter",
    taking 'f' "fields", flag 'n' "", flag 's' "only-delimited", flag 'z' "zero-terminated",
    long "complement", ⟨none, "output-delimiter", .value⟩] 1 false
  let lists := options.given.filter fun entry ↦ entry.1 == "b" || entry.1 == "c" || entry.1 == "f"
  match lists with
  | [] => misuse 1 (bytes "you must specify a list of bytes, characters, or fields")
  | (kind, value) :: others =>
    if !others.isEmpty then misuse 1 (bytes "only one list may be specified")
    let inFields := kind == "f"
    let ranges ← PositionRange.readList inFields value
    if !inFields && options.has "d" then
      misuse 1 (bytes "an input delimiter may be specified only when operating on fields")
    if !inFields && options.has "s" then
      misuse 1 (bytes "suppressing non-delimited lines makes sense\n\tonly when operating on fields")
    let delimiter ← match options.value? "d" with
      | none => pure 0x09
      | some [b] => pure b
      | some [] => pure 0
      | some _ => misuse 1 (bytes "the delimiter must be a single character")
    let zero := options.has "z"
    let ender := if zero then 0 else lineEnd
    let complement := options.has "complement"
    let isMeant := fun (n : Nat) ↦ (ranges.any fun range ↦ range.admits n) != complement
    for content in ← contents (sourceNames options) 1 do
      for line in recordsOf zero content do
        if inFields then
          let fields := cutAt delimiter line
          if fields.length = 1 then
            if !options.has "s" then put (line ++ [ender])
          else
            let separator := (options.value? "output-delimiter").getD [delimiter]
            put ((selected isMeant (fun _ ↦ true) separator 1 false fields).flatten ++ [ender])
        else
          let separator := (options.value? "output-delimiter").getD []
          let begins := fun (n : Nat) ↦
            if complement then !isMeant (n - 1)
            else !isMeant (n - 1) || (ranges.any fun range ↦ range.first == n) &&
              !(ranges.any fun range ↦ range.first < n && range.admits n)
          put ((selected isMeant begins separator 1 false (line.map fun b ↦ [b])).flatten ++ [ender])

/-! ## paste -/

/-- A list of separators, each of which may be written as an escape. -/
def separatorList : Bytes → List Bytes
  | a :: b :: rest =>
    if a = byte '\\' then
      (if b = byte 'n' then [lineEnd] else if b = byte 't' then [0x09]
        else if b = byte '0' then [] else [b]) :: separatorList rest
    else [a] :: separatorList (b :: rest)
  | [a] => [[a]]
  | [] => []

/-- Items with separators between them that are used in turn. -/
def joinInTurn (separators : List Bytes) : Nat → List Bytes → Bytes
  | _, [] => []
  | _, [item] => item
  | n, item :: rest =>
    item ++ ((separators[n % separators.length]?).getD []) ++ joinInTurn separators (n + 1) rest

/-- The rows of columns, up to the end of the longest. -/
def rowsOf : Nat → List (List Bytes) → List (List Bytes)
  | 0, _ => []
  | fuel + 1, columns =>
    if columns.all List.isEmpty then []
    else (columns.map fun column ↦ column.head?.getD []) :: rowsOf fuel (columns.map (·.drop 1))

/-- The lines of the sources side by side, or each source in one line. -/
def paste : Utility := do
  let options ← options [taking 'd' "delimiters", flag 's' "serial", flag 'z' "zero-terminated"] 1 false
  let separators := separatorList ((options.value? "d").getD [0x09])
  let separators := if separators.isEmpty then [[]] else separators
  let zero := options.has "z"
  let ender := if zero then 0 else lineEnd
  let names := sourceNames options
  let inputs := names.filter (· == bytes "-")
  let input ← if inputs.isEmpty then pure [] else
    match ← readInput with
    | .ok content => pure (recordsOf zero content)
    | .error fault => fail 1 (aboutFile (bytes "-") fault)
  let (columns, _) ← names.foldlM (fun (state : List (List Bytes) × Nat) name ↦ do
    let (columns, n) := state
    if name = bytes "-" then
      let lines := if options.has "s" then (if n = 0 then input else [])
        else (input.zipIdx.filter fun line ↦ line.2 % inputs.length == n).map Prod.fst
      return (columns ++ [lines], n + 1)
    else
      match ← readPath name with
      | .ok content => return (columns ++ [recordsOf zero content], n)
      | .error fault =>
        if options.has "s" then
          blame 1 (aboutFile name fault)
          return (columns, n)
        else fail 1 (aboutFile name fault)) (([], 0) : List (List Bytes) × Nat)
  let rows := if options.has "s" then columns
    else rowsOf ((columns.map List.length).foldl max 0 + 1) columns
  put (rows.flatMap fun row ↦ joinInTurn separators 0 row ++ [ender])

/-! ## fold, expand, unexpand -/

/-- The column behind a byte. -/
def columnBehind (inBytes : Bool) (column : Nat) (b : UInt8) : Nat :=
  if inBytes then column + 1
  else if b == 0x08 then column - 1
  else if b == 0x0D then 0
  else if b == 0x09 then column / 8 * 8 + 8
  else column + 1

/-- The greatest column in a text. -/
def widthOf (inBytes : Bool) (text : Bytes) : Nat :=
  text.foldl (columnBehind inBytes) 0

/-- A line, without its end, in pieces of a width. -/
def foldLine (inBytes atBlanks : Bool) (width : Nat) : Nat → Bytes → Bytes → List Bytes
  | 0, piece, rest => [piece ++ rest]
  | _, piece, [] => if piece.isEmpty then [] else [piece]
  | fuel + 1, piece, b :: rest =>
    let column := columnBehind inBytes (widthOf inBytes piece) b
    if width < column && !piece.isEmpty then
      let blank := if atBlanks then
          (piece.reverse.dropWhile fun b ↦ b != 0x20 && b != 0x09).length else 0
      if 0 < blank then
        piece.take blank :: foldLine inBytes atBlanks width fuel (piece.drop blank) (b :: rest)
      else piece :: foldLine inBytes atBlanks width fuel [] (b :: rest)
    else foldLine inBytes atBlanks width fuel (piece ++ [b]) rest

/-- Long lines broken. -/
def fold : Utility := withArguments (fun arguments ↦ arguments.map fun argument ↦
    match argument with
    | hyphen :: first :: rest =>
      if hyphen = byte '-' && isDecimal first then bytes "-w" ++ first :: rest else argument
    | _ => argument) do
  let options ← options [flag 'b' "bytes", flag 's' "spaces", taking 'w' "width"] 1 false
  let width ← match options.value? "w" with
    | none => pure 80
    | some value =>
      match if value.all isDecimal then amount? value else none with
      | some 0 => fail 1 (bytes "invalid number of columns: \x270\x27: Numerical result out of range")
      | some n => pure n
      | none => fail 1 (bytes "invalid number of columns: " ++ quotedText value)
  for content in ← contents (sourceNames options) 1 do
    put ((linesOf content).flatMap fun line ↦
      let text := chomp line
      List.intercalate [lineEnd]
        (foldLine (options.has "b") (options.has "s") width (4 * text.length + 4) [] text) ++
        line.drop text.length)

/-- The stops of tabs: columns, and the distance between those behind them. -/
def tabStops (value : Option Bytes) : List Nat × Nat :=
  match value with
  | none => ([], 8)
  | some value =>
    match ((value.map fun b ↦ if b == byte ' ' then byte ',' else b) |> cutAt (byte ',')).map
        (number 10) with
    | [] => ([], 8)
    | [single] => ([], single)
    | stops => (stops, 0)

/-- The next stop behind a column. -/
def nextStop (stops : List Nat × Nat) (column : Nat) : Nat :=
  match stops.1.find? (column < ·) with
  | some stop => stop
  | none => if stops.2 = 0 then column + 1 else column / stops.2 * stops.2 + stops.2

/-- Tabs as spaces. -/
def expand : Utility := do
  let options ← options [flag 'i' "initial", taking 't' "tabs"] 1 false
  let stops := tabStops (options.value? "t")
  for content in ← contents (sourceNames options) 1 do
    let (parts, _) := content.foldl (fun (state : List Bytes × Nat × Bool) b ↦
      let (parts, column, isInitial) := state
      if b == 0x09 && (isInitial || !options.has "i") then
        let next := nextStop stops column
        (List.replicate (next - column) (byte ' ') :: parts, next, isInitial)
      else if b == lineEnd then ([b] :: parts, 0, true)
      else ([b] :: parts, columnBehind false column b, isInitial && b == byte ' ')) ([], 0, true)
    put parts.reverse.flatten

/-- Runs of spaces that reach stops as tabs: the column, the number of spaces before it, and the text. -/
def unexpandLine (stops : List Nat × Nat) (all : Bool) :
    Nat → Nat → Bool → Bytes → Bytes
  | _, pending, _, [] => List.replicate pending (byte ' ')
  | column, pending, isInitial, b :: rest =>
    if b == byte ' ' && (isInitial || all) then
      if nextStop stops column = column + 1 && (0 < pending || !all || isInitial) then
        0x09 :: unexpandLine stops all (column + 1) 0 isInitial rest
      else unexpandLine stops all (column + 1) (pending + 1) isInitial rest
    else if b == 0x09 then
      0x09 :: unexpandLine stops all (nextStop stops column) 0 isInitial rest
    else List.replicate pending (byte ' ') ++
      b :: unexpandLine stops all (columnBehind false column b) 0 false rest

/-- Spaces as tabs. -/
def unexpand : Utility := do
  let options ← options [flag 'a' "all", long "first-only", taking 't' "tabs"] 1 false
  let stops := tabStops (options.value? "t")
  let all := (options.has "a" || options.has "t") && !options.has "first-only"
  for content in ← contents (sourceNames options) 1 do
    put ((linesOf content).flatMap fun line ↦
      unexpandLine stops all 0 0 true (chomp line) ++ line.drop (chomp line).length)

end CodeRepair.Shell
