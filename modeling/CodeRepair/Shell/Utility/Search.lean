import CodeRepair.Shell.Utility.Order

/-!
# Searching lines

`grep` selects the lines in which a pattern is found.  Several patterns are alternatives.
-/

namespace CodeRepair.Shell

open Work

/-- How lines are searched. -/
structure LineSearch where
  regex : Regex
  mode : Regex.Mode
  /-- Only whole words count. -/
  asWord : Bool
  /-- Only whole lines count. -/
  asLine : Bool

namespace LineSearch

/-- The first match at or behind a place. -/
def find? (search : LineSearch) : Option UInt8 → Nat → Bytes → Option Regex.Match
  | before, position, text =>
    let isWord := fun (b : Option UInt8) ↦ (b.map Regex.isWord).getD false
    let ends := fun (after : Regex.Place) ↦
      if (search.asWord && isWord after.rest.head?) || (search.asLine && !after.rest.isEmpty) then none
      else some after
    let begins := !(search.asWord && isWord before) && !(search.asLine && position != 0)
    let found := if begins then
        search.regex.run search.mode { before, rest := text, position } ends else none
    match found with
    | some after =>
      some ⟨position, text.take (after.position - position), after.groups, after.before, after.rest⟩
    | none =>
      match text with
      | [] => none
      | b :: rest => find? search (some b) (position + 1) rest

/-- Whether a line has a match. -/
def isIn (search : LineSearch) (line : Bytes) : Bool :=
  (search.find? none 0 line).isSome

/-- The matches in a line that are not empty, with their places. -/
def matchesIn (search : LineSearch) : Nat → Option UInt8 → Nat → Bytes → List (Nat × Bytes)
  | 0, _, _, _ => []
  | fuel + 1, before, position, text =>
    match search.find? before position text with
    | none => []
    | some found =>
      if found.text.isEmpty then
        match found.rest with
        | [] => []
        | b :: rest => matchesIn search fuel (some b) (found.start + 1) rest
      else (found.start, found.text) ::
        matchesIn search fuel found.before (found.start + found.text.length) found.rest

end LineSearch

/-- The files at or below a path, each with its path. -/
def filesBelow (files : FileSystem) (path : Bytes) : List (Bytes × Bytes) :=
  match files.locate (argument path) with
  | .ok (location, .directory) =>
    let base := if path.isEmpty then [] else
      if path.getLast? = some (byte '/') then path else path ++ [byte '/']
    (files.listing location).filterMap fun entry ↦
      match entry.2 with
      | .file content => some (base ++ Text.encode entry.1, content)
      | _ => none
  | _ => []

/-- What is shown of the lines of a file. -/
structure LineReport where
  name : Option Bytes
  numbers : Bool
  offsets : Bool
  onlyMatches : Bool
  colors : Bool
  before : Nat
  after : Nat

/-- The beginning of a line that is shown. -/
def LineReport.head (report : LineReport) (mark : Char) (number offset : Nat) : Bytes :=
  (match report.name with
    | some name => name ++ [byte mark]
    | none => []) ++
  (if report.numbers then ofNatural number ++ [byte mark] else []) ++
  (if report.offsets then ofNatural offset ++ [byte mark] else [])

/-- A line with its number, its place in the file and whether it is selected. -/
structure NumberedLine where
  text : Bytes
  number : Nat
  offset : Nat
  isSelected : Bool

/-- The lines of a content with their numbers and places. -/
def numberLines (isSelected : Bytes → Bool) : Nat → Nat → List Bytes → List NumberedLine
  | _, _, [] => []
  | number, offset, line :: rest =>
    ⟨line, number, offset, isSelected line⟩ ::
      numberLines isSelected (number + 1) (offset + line.length + 1) rest

/-- The lines that are shown: the selected ones and those around them.  A gap comes before a line that
does not follow the one before it. -/
def LineReport.lines (report : LineReport) (write : NumberedLine → Bytes) (pending : List NumberedLine)
    (owed : Nat) (hasAny : Bool) : List NumberedLine → List Bytes
  | [] => []
  | line :: rest =>
    if line.isSelected then
      let around := pending.take report.before
      let gap := if hasAny && around.length < pending.length && 0 < report.before + report.after then
        [bytes "--\n"] else []
      gap ++ (around.reverse.map write) ++ write line ::
        LineReport.lines report write [] report.after true rest
    else if 0 < owed then
      write line :: LineReport.lines report write [] (owed - 1) hasAny rest
    else LineReport.lines report write (line :: pending) 0 hasAny rest

/-- The lines up to the one behind which no more are selected, with the ones owed behind it. -/
def limitLines (limit after : Nat) : List NumberedLine → List NumberedLine
  | [] => []
  | line :: rest =>
    if line.isSelected then
      if limit ≤ 1 then
        line :: (rest.take after).takeWhile fun other ↦ !other.isSelected
      else line :: limitLines (limit - 1) after rest
    else line :: limitLines limit after rest

/-- The options of `grep`. -/
def searchOptions : List OptionKind :=
  [flag 'E' "extended-regexp", flag 'F' "fixed-strings", flag 'G' "basic-regexp", flag 'P' "perl-regexp",
    taking 'e' "regexp", taking 'f' "file", flag 'i' "ignore-case", flag 'y' "",
    long "no-ignore-case", flag 'v' "invert-match", flag 'w' "word-regexp", flag 'x' "line-regexp",
    flag 'c' "count", flag 'l' "files-with-matches", flag 'L' "files-without-match",
    taking 'm' "max-count", flag 'o' "only-matching", flag 'q' "quiet", ⟨some 'q', "silent", .nothing⟩,
    flag 's' "no-messages", flag 'b' "byte-offset", flag 'H' "with-filename", flag 'h' "no-filename",
    ⟨none, "label", .value⟩, flag 'n' "line-number", flag 'T' "initial-tab", flag 'Z' "null",
    taking 'A' "after-context", taking 'B' "before-context", taking 'C' "context", flag 'a' "text",
    flag 'I' "", flag 'r' "recursive", flag 'R' "dereference-recursive", ⟨none, "include", .value⟩,
    ⟨none, "exclude", .value⟩, ⟨none, "exclude-dir", .value⟩, ⟨none, "color", .perhaps⟩,
    ⟨none, "colour", .perhaps⟩, long "line-buffered", flag 'z' "null-data", flag 'U' "binary",
    taking 'd' "directories", taking 'D' "devices"]

/-- Arguments in which a number alone, as an option, says how many lines around matches are shown. -/
def contextNumbers (arguments : List Bytes) : List Bytes :=
  let upTo := arguments.takeWhile (· != bytes "--")
  upTo.map (fun argument ↦
    match argument with
    | hyphen :: first :: rest =>
      if hyphen = byte '-' && (first :: rest).all isDecimal then bytes "-C" ++ first :: rest else argument
    | _ => argument) ++ arguments.drop upTo.length

/-- The patterns that were given, and the operands that are left. -/
def patternsOf (options : Options) : Work (List Bytes × List Bytes) := do
  let given ← (options.given.filter fun entry ↦ entry.1 == "e" || entry.1 == "f").flatMapM fun entry ↦ do
    if entry.1 = "e" then return cutAt lineEnd entry.2
    else match ← readPath entry.2 with
      | .ok content => return if content.isEmpty then [] else cutAt lineEnd (chomp content)
      | .error fault => fail 2 (aboutFile entry.2 fault)
  if options.has "e" || options.has "f" then return (given, options.operands)
  else match options.operands with
    | [] =>
      let name ← called
      putError (bytes "Usage: " ++ name ++ bytes " [OPTION]... PATTERNS [FILE]...\nTry \x27" ++ name ++
        bytes " --help\x27 for more information.\n")
      quit 2
    | pattern :: rest => return (cutAt lineEnd pattern, rest)

/-- The search for any of several patterns. -/
def searchFor (options : Options) (patterns : List Bytes) : Work LineSearch := do
  let kind := (options.last? ["E", "F", "G", "P"]).getD "G"
  let regexes ← patterns.mapM fun pattern ↦ do
    if kind = "F" then return Regex.ofText pattern
    else
      let extended := kind = "E" || kind = "P"
      let pattern := if kind = "P" then perlClasses pattern else pattern
      if (bytes "[:").isPrefixOf pattern && pattern.drop (pattern.length - 2) = bytes ":]" then
        fail 2 (bytes "character class syntax is [[:space:]], not [:space:]")
      if extended && (pattern.head?.map (bytes "*+?").contains).getD false then
        warn (bytes "warning: " ++ pattern.take 1 ++ bytes " at start of expression")
      match Regex.read extended pattern with
      | .ok regex => return regex
      | .error fault => fail 2 (bytes fault.message)
  let regex := match regexes.reverse with
    | [] => Regex.oneOf false []
    | last :: others => others.foldl (fun regex other ↦ .either other regex) last
  let ignores := (options.has "i" || options.has "y") && !options.has "no-ignore-case"
  return ⟨regex, regex.modeFor ignores, options.has "w", options.has "x"⟩
where
  /-- The short names of classes that other spellings do not have. -/
  perlClasses : Bytes → Bytes
    | a :: b :: rest =>
      if a = byte '\\' && b = byte 'd' then bytes "[0-9]" ++ perlClasses rest
      else if a = byte '\\' && b = byte 't' then 0x09 :: perlClasses rest
      else if a = byte '\\' then a :: b :: perlClasses rest
      else a :: perlClasses (b :: rest)
    | rest => rest

/-- A number that an option says. -/
def searchNumber (options : Options) (key : String) : Work (Option Nat) := do
  match options.value? key with
  | none => return none
  | some value =>
    let complaint := if key = "m" then bytes "invalid max count"
      else value ++ bytes ": invalid context length argument"
    match integer? value with
    | none => fail 2 complaint
    | some n =>
      if 0 ≤ n then return some n.toNat
      if key = "m" then return none
      fail 2 complaint

/-- The lines in which patterns are found. -/
def grepWith (options : Options) : Utility := do
  let (patterns, operands) ← patternsOf options
  let search ← searchFor options patterns
  if patterns = [[]] && options.has "v" && !options.has "x" && !options.has "w" && !options.has "L" then
    quit 1
  let around ← searchNumber options "C"
  let after ← searchNumber options "A"
  let before ← searchNumber options "B"
  let limit ← searchNumber options "m"
  let recursive := options.has "r" || options.has "R"
  let silent := options.has "s"
  let files := (← get).files
  let includes := (options.values "include").map fun value ↦ globOf (value.map fun b ↦ (b, false))
  let excludes := (options.values "exclude").map fun value ↦ globOf (value.map fun b ↦ (b, false))
  let isMeant := fun (path : Bytes) ↦
    let name := ((path.reverse.takeWhile (· != byte '/')).reverse)
    (includes.isEmpty || includes.any fun glob ↦ globMatches glob name) &&
      !(excludes.any fun glob ↦ globMatches glob name)
  let names := if operands.isEmpty then (if recursive then [[]] else [bytes "-"]) else operands
  let withNames := match options.last? ["H", "h"] with
    | some "H" => true
    | some _ => false
    | none => 1 < names.length || recursive
  let sources ← names.flatMapM fun name ↦ do
    if recursive && name != bytes "-" &&
        (files.isDirectory (if name.isEmpty then ['.'] else argument name)) then
      return ((filesBelow files (if name.isEmpty then bytes "." else name)).filter fun entry ↦
        isMeant entry.1).map fun entry ↦
          (if name.isEmpty then entry.1.drop 2 else entry.1, some entry.2)
    else
      if name != bytes "-" && !isMeant name then return []
      match ← readPath name with
      | .ok content => return [(name, some content)]
      | .error fault =>
        if !silent then warn (name ++ bytes ": " ++ Text.encode fault.reason)
        return [(name, none)]
  let zero := options.has "z"
  let ender := if zero then 0 else lineEnd
  let labelOf := fun (name : Bytes) ↦ if name = bytes "-" then
    (options.value? "label").getD (bytes "(standard input)") else name
  let hasAny ← sources.foldlM (fun (hasAny : Bool) source ↦ do
    let (name, content) := source
    match content with
    | none => return hasAny
    | some content =>
      if options.has "q" && hasAny then return hasAny
      let all := numberLines (fun line ↦ search.isIn line != options.has "v") 1 0 (recordsOf zero content)
      let lines := match limit with
        | some 0 => []
        | some n => limitLines n ((after.orElse fun _ ↦ around).getD 0) all
        | none => all
      let count := lines.countP NumberedLine.isSelected
      let label := labelOf name
      let isBinary := content.contains 0 && !options.has "a" && !zero
      if options.has "q" then pure ()
      else if options.has "l" then
        if 0 < count then put (label ++ [if options.has "Z" then 0 else lineEnd])
      else if options.has "L" then
        if count = 0 then put (label ++ [if options.has "Z" then 0 else lineEnd])
      else if options.has "c" then
        putLine ((if withNames then label ++ [byte ':'] else []) ++ ofNatural count)
      else if isBinary then
        if 0 < count && !options.has "I" then warn (label ++ bytes ": binary file matches")
      else
        let report : LineReport := ⟨if withNames then some label else none, options.has "n",
          options.has "b", options.has "o",
          options.value? "color" = some (bytes "always") || options.value? "colour" = some (bytes "always"),
          (before.orElse fun _ ↦ around).getD 0, (after.orElse fun _ ↦ around).getD 0⟩
        let write := fun (line : NumberedLine) ↦
          let mark := if line.isSelected then ':' else '-'
          let found := fun (_ : Unit) ↦ search.matchesIn (line.text.length + 1) none 0 line.text
          if report.onlyMatches then
            if line.isSelected && !options.has "v" then
              (found ()).flatMap fun (place, text) ↦
                report.head mark line.number (line.offset + place) ++ text ++ [ender]
            else []
          else if report.colors && line.isSelected && !options.has "v" then
            let (shown, last) := (found ()).foldl (fun (state : Bytes × Nat) (place, text) ↦
              (state.1 ++ (line.text.take place).drop state.2 ++ bytes "\x1b[01;31m\x1b[K" ++ text ++
                bytes "\x1b[m\x1b[K", place + text.length)) ([], 0)
            report.head mark line.number line.offset ++ shown ++ line.text.drop last ++ [ender]
          else report.head mark line.number line.offset ++ line.text ++ [ender]
        put (report.lines write [] 0 false lines).flatten
      return hasAny || 0 < count) false
  let failed := sources.any fun source ↦ source.2.isNone
  setStatus (if failed && !(options.has "q" && hasAny) then 2 else if hasAny then 0 else 1)

/-- The options of `grep` with a mistake that its own usage text follows. -/
def grepOptions (extra : List (String × Bytes)) : Work Options := do
  let arguments := contextNumbers (← read).arguments
  match Options.read searchOptions false (arguments.length + 1) arguments { given := extra } with
  | .ok options => return options
  | .error message =>
    let name ← called
    warn message
    putError (bytes "Usage: " ++ name ++ bytes " [OPTION]... PATTERNS [FILE]...\nTry \x27" ++ name ++
      bytes " --help\x27 for more information.\n")
    quit 2

/-- The lines with a pattern. -/
def grep : Utility := do grepWith (← grepOptions [])

/-- The lines with a pattern in one of the other spellings, under an old name. -/
def oldGrep (letter : Char) : Utility := do
  let name ← called
  warn (bytes "warning: " ++ name ++ bytes " is obsolescent; using grep -" ++ [byte letter])
  ReaderT.adapt (fun call : Call ↦ { call with name := bytes "grep" }) do
    grepWith (← grepOptions [(letter.toString, [])])

end CodeRepair.Shell
