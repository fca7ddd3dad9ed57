import CodeRepair.Shell.Utility.Stream

/-!
# Parts of contents

Utilities that copy contents block by block, give files another size or cut a content into files.
-/

namespace CodeRepair.Shell

open Work

/-- A content with exactly so many bytes: cut off, or filled up with zeros. -/
def resized (size : Nat) (content : Bytes) : Bytes :=
  content.take size ++ List.replicate (size - content.length) 0

/-! ## dd -/

/-- How a content is copied. -/
structure Copying where
  source? : Option Bytes := none
  target? : Option Bytes := none
  inputBlock : Nat := 512
  outputBlock : Nat := 512
  /-- Whether blocks are written as they have been read. -/
  keepsBlocks : Bool := false
  /-- What is passed over in the source, and whether that is told in bytes. -/
  skipped : Nat × Bool := (0, false)
  /-- What is passed over in the target, and whether that is told in bytes. -/
  sought : Nat × Bool := (0, false)
  /-- How much is copied at most, and whether that is told in bytes. -/
  count? : Option (Nat × Bool) := none
  conversions : List Bytes := []
  inputFlags : List Bytes := []
  outputFlags : List Bytes := []
  status : Bytes := []

namespace Copying

/-- A count of blocks, or one of bytes, that a text denotes. -/
def count?OfText (text : Bytes) : Option (Nat × Bool) :=
  let factorOf := fun (piece : Bytes) ↦
    let digits := piece.takeWhile isDecimal
    let suffix := piece.dropWhile isDecimal
    if digits.isEmpty then none
    else if suffix = bytes "B" then some (number 10 digits, true)
    else if suffix = bytes "c" then some (number 10 digits, false)
    else if suffix = bytes "w" then some (2 * number 10 digits, false)
    else (amountFactor? suffix).map fun factor ↦ (number 10 digits * factor, false)
  (cutAt (byte 'x') text).foldl (fun product piece ↦
    match product, factorOf piece with
    | some (n, inBytes), some (factor, alsoInBytes) => some (n * factor, inBytes || alsoInBytes)
    | _, _ => none) (some (1, false))

/-- The words of conversions. -/
def conversionWords : List String :=
  ["excl", "fdatasync", "fsync", "lcase", "nocreat", "noerror", "notrunc", "sparse", "swab", "sync", "ucase"]

/-- The words that say how a file is opened. -/
def flagWords : List String :=
  ["append", "count_bytes", "direct", "directory", "dsync", "fullblock", "noatime", "nocache", "noctty",
    "nofollow", "nonblock", "seek_bytes", "skip_bytes", "sync", "text"]

/-- Words of a kind in a list. -/
def readWords (known : List String) (kind : String) (value : Bytes) : Work (List Bytes) :=
  (cutAt (byte ',') value).mapM fun word ↦ do
    if known.any fun known ↦ bytes known == word then return word
    else misuse 1 (bytes "invalid " ++ bytes kind ++ bytes ": " ++ quotedText word)

/-- What an operand says about the copying. -/
def readOperand (copying : Copying) (operand : Bytes) : Work Copying := do
  let name := operand.takeWhile (· != byte '=')
  let value := operand.drop (name.length + 1)
  let count := fun (least : Nat) ↦ (do
    match count?OfText value with
    | some count =>
      if least ≤ count.1 then return count
      else fail 1 (bytes "invalid number: " ++ quotedText value)
    | none => fail 1 (bytes "invalid number: " ++ quotedText value) : Work (Nat × Bool))
  let unknown := fun (_ : Unit) ↦
    (misuse 1 (bytes "unrecognized operand " ++ quotedText operand) : Work Copying)
  if name.length = operand.length then unknown ()
  else if name = bytes "if" then return { copying with source? := some value }
  else if name = bytes "of" then return { copying with target? := some value }
  else if name = bytes "bs" then
    let size := (← count 1).1
    return { copying with inputBlock := size, outputBlock := size, keepsBlocks := true }
  else if name = bytes "ibs" then
    let size := (← count 1).1
    return if copying.keepsBlocks then copying else { copying with inputBlock := size }
  else if name = bytes "obs" then
    let size := (← count 1).1
    return if copying.keepsBlocks then copying else { copying with outputBlock := size }
  else if name = bytes "skip" || name = bytes "iseek" then return { copying with skipped := ← count 0 }
  else if name = bytes "seek" || name = bytes "oseek" then return { copying with sought := ← count 0 }
  else if name = bytes "count" then return { copying with count? := some (← count 0) }
  else if name = bytes "conv" then
    return { copying with
      conversions := copying.conversions ++ (← readWords conversionWords "conversion" value) }
  else if name = bytes "iflag" then
    return { copying with inputFlags := copying.inputFlags ++ (← readWords flagWords "input flag" value) }
  else if name = bytes "oflag" then
    return { copying with
      outputFlags := copying.outputFlags ++ (← readWords flagWords "output flag" value) }
  else if name = bytes "status" then
    if [bytes "none", bytes "noxfer", bytes "progress"].contains value then
      return { copying with status := value }
    else misuse 1 (bytes "invalid status level: " ++ quotedText value)
  else unknown ()

/-- Whether a content is converted in a way. -/
def converts (copying : Copying) (word : String) : Bool :=
  copying.conversions.contains (bytes word)

/-- The number of bytes that a count stands for. -/
def bytesFor (block : Nat) (flags : List Bytes) (word : String) (count : Nat × Bool) : Nat :=
  if count.2 || flags.contains (bytes word) then count.1 else block * count.1

/-- Neighbouring bytes exchanged. -/
def swapped : Bytes → Bytes
  | a :: b :: rest => b :: a :: swapped rest
  | rest => rest

/-- A block as it is written. -/
def converted (copying : Copying) (block : Bytes) : Bytes :=
  let block := if copying.converts "sync" then resized copying.inputBlock block else block
  if copying.converts "lcase" then block.map toSmall
  else if copying.converts "ucase" then block.map toCapital
  else block

/-- What the target holds in the end. -/
def settled (copying : Copying) (before content : Bytes) : Bytes :=
  let sought := bytesFor copying.outputBlock copying.outputFlags "seek_bytes" copying.sought
  if copying.outputFlags.contains (bytes "append") then
    (if copying.converts "notrunc" then before else []) ++ content
  else
    let head := resized sought before
    head ++ content ++ if copying.converts "notrunc" then before.drop (sought + content.length) else []

/-- How many blocks are whole and how many are not. -/
def tally (size : Nat) (blocks : List Bytes) : Bytes :=
  let whole := (blocks.filter fun block ↦ block.length == size).length
  ofNatural whole ++ byte '+' :: ofNatural (blocks.length - whole)

/-- What the copying comes to. -/
def report (copying : Copying) (readBlocks written : List Bytes) : Work Unit := do
  if copying.status != bytes "none" then
    putError (tally copying.inputBlock readBlocks ++ bytes " records in\n" ++
      tally copying.outputBlock written ++ bytes " records out\n")
    if copying.status != bytes "noxfer" then
      let total := ofNatural written.flatten.length
      putError (total ++ bytes " bytes copied, 0 s, Infinity B/s\n")

/-- The source as far as it is copied: all that is there, or the part that is asked for. -/
def load (copying : Copying) : Work (Except FileFault Bytes) := do
  let skipped := bytesFor copying.inputBlock copying.inputFlags "skip_bytes" copying.skipped
  let count? := copying.count?.map
    (bytesFor copying.inputBlock copying.inputFlags "count_bytes")
  let part := fun (content : Bytes) ↦
    match count? with
    | some n => (content.drop skipped).take n
    | none => content.drop skipped
  let pass := fun (content : Bytes) (shown : Bytes) ↦ (do
    if content.length < skipped && copying.status != bytes "none" then
      warn (namedIn shown ++ bytes ": cannot skip to specified offset") : Work Unit)
  match copying.source? with
  | some path =>
    if (← get).files.isEndless (argument path) then
      match count? with
      | some n => return .ok (List.replicate n 0)
      | none =>
        modify fun effect ↦ { effect with isEndless := true }
        return .ok []
    else
      match ← readPath (if path = bytes "-" then bytes "./-" else path) with
      | .ok content =>
        pass content path
        return .ok (part content)
      | .error fault => return .error fault
  | none =>
    let available := (← get).input
    match (← read).input with
    | .error fault => return .error fault
    | .ok _ =>
      let taken := part available
      pass available (bytes "standard input")
      let needsEnd := match count? with
        | some n => decide (available.length < skipped + n)
        | none => true
      if needsEnd then
        let _ ← readInput
      else modify fun effect ↦ { effect with input := available.drop (skipped + taken.length) }
      return .ok taken

/-- The target is opened.  What it held before is the result, unless it cannot be opened. -/
def openTarget (copying : Copying) (path : Bytes) : Work (Except FileFault Bytes) := do
  let before := (← get).files.read (argument path)
  match before with
  | .ok content =>
    if copying.converts "excl" then return .error .alreadyExists
    else if (← get).files.isDevice (argument path) then return .ok []
    else
      match ← change fun files ↦ files.write (argument path) (copying.settled content []) with
      | none => return .ok content
      | some fault => return .error fault
  | .error .notFound =>
    if copying.converts "nocreat" then return .error .notFound
    else match ← change fun files ↦ files.write (argument path) (copying.settled [] []) with
      | none => return .ok []
      | some fault => return .error fault
  | .error fault => return .error fault

end Copying

/-- A content copied block by block. -/
def dd : Utility := do
  modify fun effect ↦ { effect with isPrompt := true }
  let options ← options [] 1 false
  let copying ← options.operands.foldlM Copying.readOperand {}
  if copying.converts "lcase" && copying.converts "ucase" then
    fail 1 (bytes "cannot combine lcase and ucase")
  if let some path := copying.source? then
    if let some fault ← missing? path then
      fail 1 (bytes "failed to open " ++ quotedName true path ++ bytes ": " ++ Text.encode fault.reason)
  let before ← match copying.target? with
    | none => pure []
    | some path =>
      if (View.descriptor? path).isSome then pure []
      else match ← copying.openTarget path with
        | .ok before => pure before
        | .error fault =>
          fail 1 (bytes "failed to open " ++ quotedName true path ++ bytes ": " ++ Text.encode fault.reason)
  match ← copying.load with
  | .error fault =>
    let shown := copying.source?.getD (bytes "standard input")
    warn (bytes "error reading " ++ quotedName true shown ++ bytes ": " ++ Text.encode fault.reason)
    copying.report [] []
    quit 1
  | .ok content =>
    let readBlocks := groupsOf copying.inputBlock content.length content
    let converted := readBlocks.map copying.converted
    let all := converted.flatten
    let all := if copying.converts "swab" then Copying.swapped all else all
    let written := if copying.keepsBlocks then converted else groupsOf copying.outputBlock all.length all
    match copying.target? with
    | none => put all
    | some path =>
      match View.descriptor? path with
      | some 2 => putError all
      | some _ => put all
      | none =>
        match ← change fun files ↦ files.write (argument path) (copying.settled before all) with
        | none => pure ()
        | some fault =>
          warn (bytes "error writing " ++ quotedName true path ++ bytes ": " ++ Text.encode fault.reason)
          copying.report (readBlocks.take 1) []
          quit 1
    copying.report readBlocks written

/-! ## truncate -/

/-- How the size of a file changes. -/
structure Resizing where
  /-- How the amount goes with the size; it is the size itself without that. -/
  relation? : Option UInt8
  amount : Nat

/-- The size that a file of a size gets, unless that is too small for a relation. -/
def Resizing.apply (resizing : Resizing) (size : Nat) : Nat :=
  let n := resizing.amount
  match resizing.relation?.map fun b ↦ Char.ofNat b.toNat with
  | some '+' => size + n
  | some '-' => size - n
  | some '<' => min size n
  | some '>' => max size n
  | some '/' => size / n * n
  | some '%' => (size + n - 1) / n * n
  | _ => n

/-- The change of size that a text denotes. -/
def Resizing.read (text : Bytes) : Work Resizing := do
  let text := text.dropWhile isWhite
  let relation? := text.head?.filter (bytes "+-<>/%").contains
  match amount? (if relation?.isSome then text.drop 1 else text) with
  | some amount =>
    if amount = 0 && (relation? = some (byte '/') || relation? = some (byte '%')) then
      fail 1 (bytes "division by zero")
    return ⟨relation?, amount⟩
  | none => fail 1 (bytes "Invalid number: " ++ quotedText text)

/-- Files given another size. -/
def truncate : Utility := do
  let options ← options [flag 'c' "no-create", flag 'o' "io-blocks", taking 'r' "reference",
    taking 's' "size"] 1 false
  let resizing? ← (options.value? "s").mapM Resizing.read
  let reference? := options.value? "r"
  if resizing?.isNone && reference?.isNone then
    misuse 1 (bytes "you must specify either \x27--size\x27 or \x27--reference\x27")
  if reference?.isSome && (resizing?.map fun resizing ↦ resizing.relation?.isNone).getD false then
    misuse 1 (bytes "you must specify a relative \x27--size\x27 with \x27--reference\x27")
  if options.operands.isEmpty then misuse 1 (bytes "missing file operand")
  let base? ← reference?.mapM fun path ↦ do
    match (← get).files.read (argument path) with
    | .ok content => return content.length
    | .error fault =>
      fail 1 (bytes "cannot stat " ++ quotedName true path ++ bytes ": " ++ Text.encode fault.reason)
  for path in options.operands do
    let files := (← get).files
    if !(options.has "c" && !files.contains (argument path)) then
      let before := match files.read (argument path) with
        | .ok content => content
        | .error _ => []
      let size := base?.getD before.length
      let size := (resizing?.map fun resizing ↦ resizing.apply size).getD size
      match ← change fun files ↦ files.write (argument path) (resized size before) with
      | none => pure ()
      | some fault =>
        blame 1 (bytes "cannot open " ++ quotedName true path ++ bytes " for writing: " ++
          Text.encode fault.reason)

/-! ## split -/

/-- The ends of the names of files that a content is cut into. -/
structure Suffixes where
  digits : Bytes
  length : Nat
  /-- Whether the suffixes become longer when there are no more of a length. -/
  grows : Bool

namespace Suffixes

/-- A number in some digits, so many of them. -/
def write (digits : Bytes) (length n : Nat) : Bytes :=
  (List.range length).reverse.map fun place ↦
    digits.getD (n / Nat.pow digits.length place % digits.length) 0

/-- A suffix by its number.  Suffixes that become longer begin with the last digit, once more for each
time, so that the names stay in order. -/
def get? (suffixes : Suffixes) : Nat → Nat → Nat → Option Bytes
  | 0, _, _ => none
  | fuel + 1, extra, n =>
    let base := suffixes.digits.length
    let length := suffixes.length + extra
    let lasts := List.replicate extra (suffixes.digits.getLastD 0)
    let room := if suffixes.grows then Nat.pow base (length - 1) * (base - 1) else Nat.pow base length
    if n < room then some (lasts ++ write suffixes.digits length n)
    else if suffixes.grows then get? suffixes fuel (extra + 1) (n - room)
    else none

end Suffixes

/-- Lines in groups of at most so many bytes; a longer line is cut. -/
def groupBySize (size : Nat) : Nat → Bytes → List Bytes → List Bytes
  | 0, _, _ => []
  | _, group, [] => if group.isEmpty then [] else [group]
  | fuel + 1, group, line :: rest =>
    if group.length + line.length ≤ size then groupBySize size fuel (group ++ line) rest
    else if !group.isEmpty then group :: groupBySize size fuel [] (line :: rest)
    else line.take size :: groupBySize size fuel [] (line.drop size :: rest)

/-- A content in so many parts of nearly one size. -/
def equalParts (count : Nat) (content : Bytes) : List Bytes :=
  let size := content.length / count
  let larger := content.length % count
  (List.range count).map fun n ↦
    (content.drop (n * size + min n larger)).take (if n < larger then size + 1 else size)

/-- A content cut into files. -/
def split : Utility := withArguments (fun arguments ↦ arguments.map fun argument ↦
    match argument with
    | hyphen :: digits =>
      if hyphen = byte '-' && !digits.isEmpty && digits.all isDecimal then bytes "-l" ++ digits else argument
    | [] => argument) do
  let options ← options [taking 'a' "suffix-length", ⟨none, "additional-suffix", .value⟩, taking 'b' "bytes",
    taking 'C' "line-bytes", flag 'd' "", ⟨none, "numeric-suffixes", .perhaps⟩, flag 'x' "",
    ⟨none, "hex-suffixes", .perhaps⟩, flag 'e' "elide-empty-files", taking 'l' "lines", taking 'n' "number",
    taking 't' "separator", flag 'u' "unbuffered", long "verbose"] 1 false
  let ways := ["b", "C", "l", "n"].filter fun key ↦ !(options.values key).isEmpty
  let length ← match options.value? "a" with
    | some value =>
      match amount? value with
      | some n => pure n
      | none => fail 1 (bytes "invalid suffix length: " ++ quotedText value)
    | none => pure 0
  let separator ← match options.value? "t" with
    | some [b] => pure b
    | some [] => fail 1 (bytes "empty record separator")
    | some value =>
      if value = bytes "\\0" then pure 0
      else fail 1 (bytes "multi-character separator " ++ quotedText value)
    | none => pure lineEnd
  let amount := fun (key kind : String) ↦ (do
    let value := (options.value? key).getD (bytes "1000")
    match amount? value with
    | some n =>
      if n = 0 then fail 1 (bytes "invalid number of " ++ bytes kind ++ bytes ": " ++ quotedText value)
      else return n
    | none => fail 1 (bytes "invalid number of " ++ bytes kind ++ bytes ": " ++ quotedText value) : Work Nat)
  if 1 < ways.length then misuse 1 (bytes "cannot split in more than one way")
  let way := ways.head?.getD "l"
  let amount ← amount way (if way == "n" then "chunks" else if way == "l" then "lines" else "bytes")
  if let some extra := options.operands[2]? then
    misuse 1 (bytes "extra operand " ++ quotedText extra)
  let source := options.operands.head?.getD (bytes "-")
  let stem := (options.operands[1]?).getD (bytes "x")
  match ← readPath source with
  | .error fault =>
    fail 1 (if fault = .isADirectory then namedIn source ++ bytes ": read error: Is a directory"
      else bytes "cannot open " ++ quotedName true source ++ bytes " for reading: " ++
        Text.encode fault.reason)
  | .ok content =>
    let lines := fun (_ : Unit) ↦ (content.foldr (fun b pieces ↦
      match pieces with
      | [] => [[b]]
      | piece :: rest => if b = separator then [b] :: piece :: rest else (b :: piece) :: rest) [[]]).filter
        fun line ↦ !line.isEmpty
    let parts := match way with
      | "b" => groupsOf amount content.length content
      | "C" => groupBySize amount (2 * content.length + 1) [] (lines ())
      | "n" => (equalParts amount content).filter fun part ↦ !(options.has "e" && part.isEmpty)
      | _ =>
        let lines := lines ()
        (groupsOf amount lines.length lines).map List.flatten
    let digits := match options.last? ["d", "numeric-suffixes", "x", "hex-suffixes"] with
      | some "d" | some "numeric-suffixes" => bytes "0123456789"
      | some _ => bytes "0123456789abcdef"
      | none => bytes "abcdefghijklmnopqrstuvwxyz"
    let start := number 10 ((options.value? "numeric-suffixes").getD [])
    let suffixes : Suffixes := ⟨digits, if length = 0 then 2 else length, length = 0 && start = 0⟩
    let _ ← parts.foldlM (fun (n : Nat) part ↦ do
      match suffixes.get? (parts.length + 1) 0 n with
      | none => fail 1 (bytes "output file suffixes exhausted")
      | some suffix =>
        let path := stem ++ suffix ++ (options.value? "additional-suffix").getD []
        if options.has "verbose" then putLine (bytes "creating file " ++ quotedName true path)
        match ← change fun files ↦ files.write (argument path) part with
        | none => return n + 1
        | some fault => fail 1 (aboutFile path fault)) start

end CodeRepair.Shell
