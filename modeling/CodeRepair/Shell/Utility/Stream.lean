import CodeRepair.Shell.Regex
import CodeRepair.Shell.Utility.Basic

/-!
# Whole contents

Utilities that pass on contents as a whole or in part, count them or show them in another form.
-/

namespace CodeRepair.Shell

open Work

/-- The names of the sources of a utility: its operands, or its input if there are none. -/
def sourceNames (options : Options) : List Bytes :=
  if options.operands.isEmpty then [bytes "-"] else options.operands

/-- The contents of sources; what cannot be read is complained about. -/
def Work.contents (names : List Bytes) (status : Nat) : Work (List Bytes) :=
  names.filterMapM fun name ↦ do
    match ← readPath name with
    | .ok content => return some content
    | .error fault =>
      blame status (aboutFile name fault)
      return none

/-- How a source is called in headings. -/
def headingName (name : Bytes) : Bytes :=
  if name = bytes "-" then bytes "standard input" else name

/-- The input is left behind so many bytes, or behind the next multiple of a block if it is a pipe. -/
def Work.leaveInput (used block : Nat) : Work Unit := do
  let isFile := match (← read).descriptors.find? fun entry ↦ entry.1 == 0 with
    | some (_, .file _) => true
    | _ => false
  modify fun effect ↦ { effect with
    input := effect.input.drop (if isFile then used else (used + block - 1) / block * block) }

/-! ## cat -/

/-- How lines are shown. -/
structure Shown where
  numbersAll : Bool
  numbersFull : Bool
  ends : Bool
  squeezes : Bool
  tabs : Bool
  marks : Bool

/-- A byte as it is shown. -/
def Shown.byte (shown : Shown) (b : UInt8) : Bytes :=
  let low := fun (b : UInt8) ↦
    if b == 0x7F then bytes "^?" else if b < 0x20 then [Shell.byte '^', b + 0x40] else [b]
  if b == 0x09 then (if shown.tabs then bytes "^I" else [b])
  else if !shown.marks || b == lineEnd then [b]
  else if b < 0x80 then low b
  else bytes "M-" ++ low (b - 0x80)

/-- Where the showing of lines stands. -/
structure Showing where
  number : Nat := 1
  atStart : Bool := true
  blanks : Nat := 0

/-- A line as it is shown. -/
def Shown.line (shown : Shown) (state : Showing) (line : Bytes) : Bytes × Showing :=
  let isBlank := state.atStart && line == [lineEnd]
  let blanks := if isBlank then state.blanks + 1 else 0
  if shown.squeezes && 1 < blanks then ([], { state with blanks })
  else
    let isNumbered := state.atStart && (if shown.numbersFull then !isBlank else shown.numbersAll)
    let head := if isNumbered then padLeft 6 (Shell.byte ' ') (ofNatural state.number) ++ [0x09] else []
    let body := chomp line
    let ended := body.length < line.length
    let body := if shown.ends && ended && body.getLast? = some 0x0D && !shown.marks then
      body.dropLast ++ bytes "^M" else body.flatMap shown.byte
    (head ++ body ++ (if ended then (if shown.ends then bytes "$\n" else [lineEnd]) else []),
      ⟨if isNumbered then state.number + 1 else state.number, ended, blanks⟩)

/-- The sources one after the other. -/
def cat : Utility := do
  modify fun effect ↦ { effect with isPrompt := true }
  let options ← options [flag 'A' "show-all", flag 'b' "number-nonblank", flag 'e' "",
    flag 'E' "show-ends", flag 'n' "number", flag 's' "squeeze-blank", flag 't' "",
    flag 'T' "show-tabs", flag 'u' "", flag 'v' "show-nonprinting"] 1 false
  let any := fun (keys : List String) ↦ keys.any options.has
  let shown : Shown := ⟨options.has "n", options.has "b", any ["A", "e", "E"], options.has "s",
    any ["A", "t", "T"], any ["A", "e", "t", "v"]⟩
  let isPlain := !any ["A", "b", "e", "E", "n", "s", "t", "T", "v"]
  let _ ← (sourceNames options).foldlM (fun (state : Showing) name ↦ do
    match ← readPath name with
    | .error fault =>
      blame 1 (aboutFile name fault)
      if fault = .badDescriptor then warn (bytes "closing standard input: " ++ Text.encode fault.reason)
      return state
    | .ok content =>
      if (← get).files.isEndless (argument name) then modify fun effect ↦ { effect with isEndless := true }
      if isPlain then
        put content
        return state
      else
        let (parts, state) := (linesOf content).foldl (fun (parts, state) line ↦
          let (part, state) := shown.line state line
          (part :: parts, state)) (([] : List Bytes), state)
        put parts.reverse.flatten
        return state) {}

/-! ## head, tail, tac, rev -/

/-- The factors of the letters behind amounts. -/
def amountFactor? (suffix : Bytes) : Option Nat :=
  let power := fun (base : Nat) (letter : UInt8) ↦
    ((bytes "KMGTPE").idxOf? (toCapital letter)).map fun n ↦ Nat.pow base (n + 1)
  match suffix with
  | [] => some 1
  | [letter] => if letter = byte 'b' then some 512 else power 1024 letter
  | [letter, b] => if b = byte 'B' then power 1000 letter else none
  | [letter, i, b] => if i = byte 'i' && b = byte 'B' then power 1024 letter else none
  | _ => none

/-- The number that an amount denotes. -/
def amount? (text : Bytes) : Option Nat :=
  let digits := text.takeWhile isDecimal
  if digits.isEmpty then none
  else (amountFactor? (text.dropWhile isDecimal)).map fun factor ↦ number 10 digits * factor

/-- An amount with a sign in front of it. -/
structure Extent where
  sign : Option Char := none
  amount : Nat := 10
  inBytes : Bool := false

/-- The extent that a value denotes. -/
def Extent.read (inBytes : Bool) (value : Bytes) : Work Extent := do
  let sign := if value.head? = some (byte '-') then some '-'
    else if value.head? = some (byte '+') then some '+' else none
  match amount? (if sign.isSome then value.drop 1 else value) with
  | some amount => return ⟨sign, amount, inBytes⟩
  | none =>
    let shown := if (← called) = bytes "head" && sign = some '-' then value.drop 1 else value
    fail 1 (bytes "invalid number of " ++ (if inBytes then bytes "bytes: " else bytes "lines: ") ++
      quotedText shown)

/-- Arguments with an old spelling of an extent at their beginning replaced by the new one. -/
def renewExtent (signs : Bytes) (arguments : List Bytes) : List Bytes :=
  match arguments with
  | first :: rest =>
    let inner := first.drop 1
    let digits := inner.takeWhile isDecimal
    let letters := inner.dropWhile isDecimal
    if (first.head?.map signs.contains).getD false && !digits.isEmpty &&
        letters.all fun b ↦ (bytes "bcklmqvf").contains b then
      let unit := if letters.contains (byte 'c') || letters.contains (byte 'b') ||
          letters.contains (byte 'k') || letters.contains (byte 'm') then bytes "-c" else bytes "-n"
      let factor := if letters.contains (byte 'b') then bytes "b"
        else if letters.contains (byte 'k') then bytes "k"
        else if letters.contains (byte 'm') then bytes "m" else []
      let sign := if first.head? = some (byte '+') then bytes "+" else []
      let flags := letters.filter fun b ↦ (bytes "qvf").contains b
      (unit ++ sign ++ digits ++ factor) :: (flags.map fun b ↦ [byte '-', b]) ++ rest
    else arguments
  | [] => []

/-- The last elements of a list, or all but the first ones. -/
def lastOf {α : Type} (fromStart : Bool) (n : Nat) (items : List α) : List α :=
  items.drop (if fromStart then n - 1 else items.length - n)

/-- The work done with other arguments. -/
def withArguments (f : List Bytes → List Bytes) (work : Work Unit) : Work Unit :=
  ReaderT.adapt (fun call : Call ↦ { call with arguments := f call.arguments }) work

/-- One source after the other with headings between them. -/
def Work.headed (options : Options) (pass : Bytes → Work Unit) : Work Unit := do
  let names := sourceNames options
  let headings := match options.last? ["q", "v"] with
    | some "q" => false
    | some _ => true
    | none => 1 < names.length
  let _ ← names.foldlM (fun (isFirst : Bool) name ↦ do
    let heading := fun (_ : Unit) ↦ (do
      if headings then
        put ((if isFirst then [] else [lineEnd]) ++ bytes "==> " ++ headingName name ++
          bytes " <==\n") : Work Unit)
    match ← missing? name with
    | some fault =>
      blame 1 (bytes "cannot open " ++ quotedName true name ++ bytes " for reading: " ++
        Text.encode fault.reason)
      return isFirst
    | none =>
      heading ()
      pass name
      return false) true

/-- Options of utilities for the beginning and the end of contents. -/
def extentOptions : List OptionKind :=
  [taking 'n' "lines", taking 'c' "bytes", flag 'q' "quiet", flag 'v' "verbose",
    flag 'z' "zero-terminated"]

/-- The beginning of each source. -/
def head : Utility := withArguments (renewExtent (bytes "-")) do
  let options ← options (⟨some 'q', "silent", .nothing⟩ :: extentOptions) 1 false
  let extent ← match options.last? ["n", "c"] with
    | some key => Extent.read (key == "c") ((options.value? key).getD [])
    | none => pure {}
  headed options fun name ↦ do
    let isInput := name = bytes "-" || View.descriptor? name = some 0
    if (← get).files.isEndless (argument name) then
      if extent.inBytes then put (List.replicate extent.amount 0)
      else modify fun effect ↦ { effect with isEndless := true }
    else
      let available := (← get).input
      match ← if isInput then (do
          match (← read).input with
          | .ok _ => return Except.ok available
          | .error fault => return .error fault) else readPath name with
      | .error fault =>
        blame 1 (bytes "error reading " ++ quotedName true name ++ bytes ": " ++
          Text.encode fault.reason)
      | .ok content =>
        let lines := if extent.inBytes then [] else linesOf content
        let total := if extent.inBytes then content.length else lines.length
        let count := if extent.sign = some '-' then total - extent.amount else extent.amount
        let part := if extent.inBytes then content.take count else (lines.take count).flatten
        put part
        if isInput then
          let needsEnd := extent.sign = some '-' || total < count ||
            (!extent.inBytes && total = count && part.getLast? != some lineEnd && count != 0)
          if needsEnd then
            let _ ← readInput
          else leaveInput part.length (if extent.inBytes then 1 else 8192)

/-- The end of each source. -/
def tail : Utility := withArguments
    (fun arguments ↦ renewExtent (if arguments.length ≤ 2 then bytes "-+" else bytes "-") arguments) do
  let options ← options ([⟨some 'q', "silent", .nothing⟩, flag 'f' "follow", flag 'F' "",
    taking 's' "sleep-interval", ⟨none, "pid", .value⟩, ⟨none, "retry", .nothing⟩] ++ extentOptions)
    1 false
  let extent ← match options.last? ["n", "c"] with
    | some key => Extent.read (key == "c") ((options.value? key).getD [])
    | none => pure {}
  headed options fun name ↦ do
    match ← readPath name with
    | .error fault =>
      blame 1 (bytes "error reading " ++ quotedName true name ++ bytes ": " ++
        Text.encode fault.reason)
    | .ok content =>
      let fromStart := extent.sign = some '+'
      put (if extent.inBytes then lastOf fromStart extent.amount content
        else (lastOf fromStart extent.amount (linesOf content)).flatten)
      if (options.has "f" || options.has "F") && name != bytes "-" then
        modify fun effect ↦ { effect with isEndless := true, isPrompt := true }

/-- Pieces of a content, each with the separator that ends it or begins it. -/
def separated (separator : Bytes) (before : Bool) : Nat → Bytes → Bytes → List Bytes
  | 0, piece, rest => [piece.reverse ++ rest]
  | _, piece, [] => [piece.reverse]
  | fuel + 1, piece, b :: rest =>
    if !separator.isEmpty && separator.isPrefixOf (b :: rest) then
      let after := (b :: rest).drop separator.length
      if before then piece.reverse :: separated separator before fuel separator.reverse after
      else (piece.reverse ++ separator) :: separated separator before fuel [] after
    else separated separator before fuel (b :: piece) rest

/-- The lines of each source in the opposite order. -/
def tac : Utility := do
  let options ← options [flag 'b' "before", flag 'r' "regex", taking 's' "separator"] 1 false
  let separator := (options.value? "s").getD [lineEnd]
  let separator := if separator.isEmpty then [0] else separator
  for name in sourceNames options do
    match ← missing? name with
    | some fault =>
      blame 1 (bytes "failed to open " ++ quotedName true name ++ bytes " for reading: " ++
        Text.encode fault.reason)
    | none =>
      match ← readPath name with
      | .ok content =>
        put (separated separator (options.has "b") (content.length + 1) [] content).reverse.flatten
      | .error fault =>
        let reason := if fault = .isADirectory then FileFault.invalid.reason else fault.reason
        blame 1 (namedIn name ++ bytes ": read error: " ++ Text.encode reason)

/-- The lines of each source, each from its end to its beginning. -/
def rev : Utility := do
  let options ← options [flag '0' "zero"] 1 false
  for name in sourceNames options do
    match ← readPath name with
    | .ok content =>
      put ((linesOf content).flatMap fun line ↦
        (chomp line).reverse ++ line.drop (chomp line).length)
    | .error fault => blame 1 (bytes "cannot open " ++ name ++ bytes ": " ++ Text.encode fault.reason)

/-! ## tee -/

/-- The input, which goes to files as well. -/
def tee : Utility := do
  modify fun effect ↦ { effect with isPrompt := true }
  let options ← options [flag 'a' "append", flag 'i' "ignore-interrupts", flag 'p' ""] 1 false
  let opened ← options.operands.filterM fun path ↦ do
    if (View.descriptor? path).isSome then return true
    else
      match ← change fun files ↦
          match options.has "a", files.locate (argument path) with
          | true, .ok (_, .file _) => .ok files
          | _, _ => files.write (argument path) [] with
      | none => return true
      | some fault =>
        blame 1 (aboutFile path fault)
        return false
  match ← readInput with
  | .error fault => blame 1 (bytes "read error: " ++ Text.encode fault.reason)
  | .ok content =>
    put content
    for path in opened do
      match View.descriptor? path with
      | some 2 => putError content
      | some _ => put content
      | none =>
        match ← change fun files ↦ do
            files.write (argument path) ((← files.read (argument path)) ++ content) with
        | none => pure ()
        | some fault => blame 1 (aboutFile path fault)

/-! ## wc -/

/-- The counts of a content: lines, words, bytes and the greatest width of a line. -/
structure Counts where
  lines : Nat := 0
  words : Nat := 0
  bytes : Nat := 0
  width : Nat := 0

/-- Where the counting of a content stands. -/
structure Counting where
  counts : Counts := {}
  inWord : Bool := false
  column : Nat := 0

/-- One more byte. -/
def Counting.add (state : Counting) (b : UInt8) : Counting :=
  let counts := state.counts
  let column := if b == lineEnd || b == 0x0D || b == 0x0C then 0
    else if b == 0x09 then state.column / 8 * 8 + 8
    else if 0x20 ≤ b && b < 0x7F then state.column + 1 else state.column
  let inWord := !isWhite b
  { counts :=
      { lines := if b == lineEnd then counts.lines + 1 else counts.lines
        words := if inWord && !state.inWord then counts.words + 1 else counts.words
        bytes := counts.bytes + 1
        width := max counts.width column }
    inWord, column }

/-- The counts of a content. -/
def countsOf (content : Bytes) : Counts :=
  (content.foldl Counting.add {}).counts

/-- Counts of lines, words and bytes. -/
def wc : Utility := do
  let options ← options [flag 'c' "bytes", flag 'm' "chars", flag 'l' "lines", flag 'w' "words",
    flag 'L' "max-line-length"] 1 false
  let chosen := ["l", "w", "m", "c", "L"].filter options.has
  let chosen := if chosen.isEmpty then ["l", "w", "c"] else chosen
  let names := sourceNames options
  let view ← view
  let kindOf := fun (name : Bytes) ↦
    if name = bytes "-" then view.kind? (bytes "/dev/stdin") else view.kind? name
  let kinds := names.map kindOf
  let isSingle := names.length = 1 && chosen.length = 1
  let width := if isSingle then 1
    else
      let total := kinds.foldl (fun total kind ↦
        match kind with
        | some (.file size) => total + size
        | _ => total) 0
      let isMixed := kinds.any fun
        | some (.file _) => false
        | some _ => true
        | none => false
      max (ofNatural total).length (if isMixed then 7 else 1)
  let write := fun (counts : Counts) (name : Option Bytes) ↦ do
    let numbers := chosen.map fun
      | "l" => counts.lines
      | "w" => counts.words
      | "L" => counts.width
      | _ => counts.bytes
    putLine (List.intercalate [byte ' '] (numbers.map fun n ↦
      padLeft width (byte ' ') (ofNatural n)) ++
        match name with
        | some name => byte ' ' :: name
        | none => [])
  let shownName := fun (name : Bytes) ↦ if options.operands.isEmpty then none else some name
  let total ← names.foldlM (fun (total : Counts) name ↦ do
    match ← readPath name with
    | .ok content =>
      let counts := countsOf content
      write counts (shownName name)
      return ⟨total.lines + counts.lines, total.words + counts.words, total.bytes + counts.bytes,
        max total.width counts.width⟩
    | .error fault =>
      blame 1 (aboutFile name fault)
      if fault = .isADirectory then write {} (shownName name)
      return total) {}
  if 1 < names.length then write total (some (bytes "total"))

/-! ## nl -/

/-- Which lines are numbered. -/
inductive Numbered
  | all
  | full
  | nothing
  | matching (regex : Regex)

/-- Whether a line is numbered. -/
def Numbered.admits : Numbered → Bytes → Bool
  | all, _ => true
  | full, line => !line.isEmpty
  | nothing, _ => false
  | matching regex, line => (regex.find? false line).isSome

/-- The lines that are meant. -/
def Numbered.read (value : Bytes) : Work Numbered := do
  match value with
  | [b] =>
    if b = byte 'a' then return .all
    else if b = byte 't' then return .full
    else if b = byte 'n' then return .nothing
    else fail 1 (bytes "invalid body numbering style: " ++ quotedText value)
  | b :: pattern =>
    if b = byte 'p' then
      match Regex.read false pattern with
      | .ok regex => return .matching regex
      | .error fault => fail 1 (bytes fault.message)
    else fail 1 (bytes "invalid body numbering style: " ++ quotedText value)
  | [] => fail 1 (bytes "invalid body numbering style: " ++ quotedText value)

/-- The lines of the sources with numbers. -/
def nl : Utility := do
  let options ← options [taking 'b' "body-numbering", taking 'd' "section-delimiter",
    taking 'f' "footer-numbering", taking 'h' "header-numbering", taking 'i' "line-increment",
    taking 'l' "join-blank-lines", taking 'n' "number-format", flag 'p' "no-renumber",
    taking 's' "number-separator", taking 'v' "starting-line-number", taking 'w' "number-width"]
    1 false
  let body ← Numbered.read ((options.value? "b").getD (bytes "t"))
  let header ← Numbered.read ((options.value? "h").getD (bytes "n"))
  let footer ← Numbered.read ((options.value? "f").getD (bytes "n"))
  let start := integer ((options.value? "v").getD (bytes "1"))
  let step := integer ((options.value? "i").getD (bytes "1"))
  let width := (integer ((options.value? "w").getD (bytes "6"))).toNat
  let separator := (options.value? "s").getD [0x09]
  let style := (options.value? "n").getD (bytes "rn")
  let marks := (options.value? "d").getD (bytes "\\:")
  let marks := if marks.length = 1 then marks ++ [byte ':'] else marks
  let numbered := fun (n : Int) ↦
    if style = bytes "ln" then padRight width (byte ' ') (ofInteger n)
    else if style = bytes "rz" then
      (if n < 0 then [byte '-'] else []) ++
        padLeft (if n < 0 then width - 1 else width) (byte '0') (ofNatural n.natAbs)
    else padLeft width (byte ' ') (ofInteger n)
  let contents ← contents (sourceNames options) 1
  let _ ← (linesOf contents.flatten).foldlM (fun (state : Numbered × Int) line ↦ do
    let text := chomp line
    let begin := fun (next : Numbered) ↦ do
      putLine []
      return (next, if options.has "p" then state.2 else start)
    if text = marks ++ marks ++ marks then begin header
    else if text = marks ++ marks then begin body
    else if text = marks then begin footer
    else if state.1.admits text then
      putLine (numbered state.2 ++ separator ++ text)
      return (state.1, state.2 + step)
    else
      putLine (List.replicate (width + separator.length) (byte ' ') ++ text)
      return state) (body, start)

/-! ## base64 -/

/-- The digits of numbers in base 64. -/
def sixBitDigits : Bytes :=
  bytes "ABCDEFGHIJKLMNOPQRSTUVWXYZabcdefghijklmnopqrstuvwxyz0123456789+/"

/-- Bytes in groups of three as digits in base 64. -/
def toSixBits : Bytes → Bytes
  | a :: b :: c :: rest =>
    let n := a.toNat * 65536 + b.toNat * 256 + c.toNat
    [n / 262144, n / 4096 % 64, n / 64 % 64, n % 64].map (fun d ↦ (sixBitDigits[d]?).getD 0) ++
      toSixBits rest
  | [a, b] =>
    let n := a.toNat * 65536 + b.toNat * 256
    [n / 262144, n / 4096 % 64, n / 64 % 64].map (fun d ↦ (sixBitDigits[d]?).getD 0) ++ [byte '=']
  | [a] =>
    let n := a.toNat * 65536
    [n / 262144, n / 4096 % 64].map (fun d ↦ (sixBitDigits[d]?).getD 0) ++ bytes "=="
  | [] => []

/-- The bytes that digits in base 64 stand for, and whether all of them do. -/
def ofSixBits : Bytes → Bytes × Bool
  | a :: b :: c :: d :: rest =>
    match sixBitDigits.idxOf? a, sixBitDigits.idxOf? b, sixBitDigits.idxOf? c, sixBitDigits.idxOf? d with
    | some a, some b, some c, some d =>
      let n := a * 262144 + b * 4096 + c * 64 + d
      let (after, isWhole) := ofSixBits rest
      ([n / 65536, n / 256 % 256, n % 256].map UInt8.ofNat ++ after, isWhole)
    | some a, some b, some c, none =>
      let n := a * 262144 + b * 4096 + c * 64
      ([n / 65536, n / 256 % 256].map UInt8.ofNat, d == byte '=' && rest.isEmpty)
    | some a, some b, none, none =>
      ([UInt8.ofNat ((a * 262144 + b * 4096) / 65536)], c == byte '=' && d == byte '=' && rest.isEmpty)
    | _, _, _, _ => ([], false)
  | [] => ([], true)
  | _ => ([], false)

/-- Lines of a width, the last of which may be shorter. -/
def wrapped (width : Nat) : Nat → Bytes → Bytes
  | 0, content => content
  | fuel + 1, content =>
    if width = 0 || content.isEmpty then content
    else content.take width ++ lineEnd :: wrapped width fuel (content.drop width)

/-- Bytes as digits in base 64, or the other way round. -/
def base64 : Utility := do
  let options ← options [flag 'd' "decode", flag 'i' "ignore-garbage", taking 'w' "wrap"] 1 false
  let width ← match options.value? "w" with
    | some value =>
      match amount? value with
      | some n => pure n
      | none => fail 1 (bytes "invalid wrap size: " ++ quotedText value)
    | none => pure 76
  let name := (sourceNames options).head?.getD []
  match ← readPath name with
  | .error fault =>
    fail 1 (if fault = .isADirectory then bytes "read error: Is a directory" else aboutFile name fault)
  | .ok content =>
    if options.has "d" then
      let digits := content.filter fun b ↦
        b != lineEnd && (!options.has "i" || sixBitDigits.contains b || b == byte '=')
      let (decoded, isWhole) := ofSixBits digits
      put decoded
      if !isWhole then fail 1 (bytes "invalid input")
    else put (wrapped width (2 * content.length + 1) (toSixBits content))

end CodeRepair.Shell
