import CodeRepair.Shell.State
import CodeRepair.Shell.Utility.FileTree

/-!
# Utilities that run programs

Some utilities run programs and go on with what these end with.  What they are going to do is a plan:
the steps one after the other, in which every run decides how to go on.
-/

namespace CodeRepair.Shell

/-- What a program is run with. -/
structure Start where
  words : List Bytes
  /-- The variables that it gets to know, if they are not the usual ones. -/
  environment : Option (List (Text × Bytes)) := none
  /-- The directory in which it runs, if that is not the usual one. -/
  directory : Option Path := none
  /-- Whether it reads the input of the utility that runs it. -/
  sharesInput : Bool := true
  /-- What it reads instead of that input. -/
  input : Option Bytes := none
  /-- Whether its output goes to the utility that runs it. -/
  isHeard : Bool := false
  /-- How many milliseconds it may take. -/
  limit : Option Nat := none

/-- What is still to be done. -/
inductive Plan
  | finish (status : Nat)
  /-- A signal stops the utility. -/
  | stop (signal : Nat)
  | write (isError : Bool) (content : Bytes) (next : Plan)
  | change (f : FileSystem → FileSystem) (next : Plan)
  /-- Nothing happens for a while. -/
  | pause (milliseconds : Nat) (next : Plan)
  /-- A program is run. -/
  | run (start : Start) (next : Ended → Plan)
  /-- A program is run that may change the files and may be heard. -/
  | consult (start : Start) (next : Ended → Bytes → FileSystem → Plan)
  /-- A program takes over; if it cannot be started, the plan goes on. -/
  | become (start : Start) (next : FileFault → Plan)

open Work

/-! ## xargs -/

/-- The words of a text, and whether its quotation marks are closed. -/
def quotedWords : Nat → Option Bytes → Bytes → List Bytes × Option UInt8
  | 0, word, _ => (word.toList, none)
  | _, word, [] => (word.toList.map List.reverse, none)
  | fuel + 1, word, b :: rest =>
    if b == byte '\x27' || b == byte '"' then
      let inner := rest.takeWhile fun c ↦ c != b && c != lineEnd
      match rest.drop inner.length with
      | c :: after =>
        if c = b then quotedWords fuel (some (inner.reverse ++ word.getD [])) after
        else ([], some b)
      | [] => ([], some b)
    else if b == byte '\\' then
      match rest with
      | c :: after => quotedWords fuel (some (c :: word.getD [])) after
      | [] => (word.toList.map List.reverse, none)
    else if b == 0x20 || b == 0x09 || b == lineEnd then
      let (words, fault) := quotedWords fuel none rest
      (word.toList.map List.reverse ++ words, fault)
    else quotedWords fuel (some (b :: word.getD [])) rest

/-- A text with one text in the place of another. -/
def replaceText (old new : Bytes) : Nat → Bytes → Bytes
  | 0, text => text
  | _, [] => []
  | fuel + 1, b :: rest =>
    if !old.isEmpty && old.isPrefixOf (b :: rest) then
      new ++ replaceText old new fuel ((b :: rest).drop old.length)
    else b :: replaceText old new fuel rest

/-- Commands run one after the other; the worst of what they end with counts. -/
def runAll (name : Bytes) (shows : Bool) : Nat → List (List Bytes) → Plan
  | status, [] => .finish status
  | status, [] :: rest => runAll name shows status rest
  | status, (program :: arguments) :: rest =>
    let stop := fun (message : Bytes) (status : Nat) ↦
      Plan.write true (name ++ bytes ": " ++ program ++ message ++ [lineEnd]) (.finish status)
    let run := Plan.run { words := program :: arguments, sharesInput := false } fun
      | .exited 0 => runAll name shows status rest
      | .exited 255 => stop (bytes ": exited with status 255; aborting") 124
      | .exited _ | .expired => runAll name shows 123 rest
      | .stopped signal => stop (bytes ": terminated by signal " ++ ofNatural signal) 125
      | .refused fault => stop (bytes ": " ++ reasonOf fault) (Ended.refused fault).status
    if shows then .write true (List.intercalate [byte ' '] (program :: arguments) ++ [lineEnd]) run
    else run

/-- Commands put together from what is read. -/
def xargs : Work Plan := do
  let options ← options [flag '0' "null", taking 'a' "arg-file", taking 'd' "delimiter", taking 'E' "",
    taking 'I' "", ⟨some 'i', "replace", .perhaps⟩, taking 'L' "max-lines", taking 'n' "max-args",
    flag 'o' "open-tty", taking 'P' "max-procs", flag 'p' "interactive", flag 'r' "no-run-if-empty",
    taking 's' "max-chars", flag 't' "verbose", flag 'x' "exit"] 1 true
  let content ← match options.value? "a" with
    | some path => readPath path
    | none => readInput
  let content ← match content with
    | .ok content => pure content
    | .error fault => fail 1 (reasonOf fault)
  let command := if options.operands.isEmpty then [bytes "echo"] else options.operands
  let size := fun (key : String) ↦ (do
    match options.value? key with
    | none => return none
    | some value =>
      match if value.all isDecimal && !value.isEmpty then some (number 10 value) else none with
      | some n =>
        if n = 0 then misuse 1 (bytes "value " ++ value ++ bytes " for -" ++ bytes key ++
          bytes " option should be >= 1")
        return some n
      | none => misuse 1 (bytes "invalid number \"" ++ value ++ bytes "\" for -" ++ bytes key ++
          bytes " option") : Work (Option Nat))
  let count ← size "n"
  let lines ← size "L"
  let separator : Option UInt8 := if options.has "0" then some 0
    else (options.value? "d").map fun value ↦
      if value = bytes "\\n" then lineEnd else if value = bytes "\\t" then 0x09
      else if value = bytes "\\0" then 0 else value.head?.getD 0
  let unmatched := fun (mark : UInt8) ↦
    (fail 1 (bytes "unmatched " ++ (if mark = byte '"' then bytes "double" else bytes "single") ++
      bytes " quote; by default quotes are special to xargs unless you use the -0 option") :
      Work (List (List Bytes)))
  let pieces := fun (mark : UInt8) ↦
    let pieces := cutAt mark content
    if pieces.getLast? = some [] then pieces.dropLast else pieces
  let replaced := (options.value? "I").orElse fun _ ↦
    (options.value? "i").map fun value ↦ if value.isEmpty then bytes "\x7b\x7d" else value
  let groups ← match replaced with
    | some _ => do
      let texts := match separator with
        | some mark => pieces mark
        | none => ((cutAt lineEnd content).map fun (line : Bytes) ↦
            line.dropWhile fun b ↦ b == 0x20 || b == 0x09).filter fun line ↦ !line.isEmpty
      pure (texts.map fun text ↦ [text])
    | none => do
      match separator with
      | some mark =>
        let items := pieces mark
        pure (groupsOf (count.getD (items.length + 1)) (items.length + 1) items)
      | none =>
        match lines with
        | some n =>
          let rows := (cutAt lineEnd content).map fun line ↦ (quotedWords (line.length + 1) none line).1
          pure ((groupsOf n (rows.length + 1) (rows.filter fun row ↦ !row.isEmpty)).map List.flatten)
        | none =>
          match quotedWords (content.length + 1) none content with
          | (_, some mark) => unmatched mark
          | (words, none) => pure (groupsOf (count.getD (words.length + 1)) (words.length + 1) words)
  let commands := match replaced with
    | some mark => groups.map fun group ↦
        let text := group.head?.getD []
        command.take 1 ++ (command.drop 1).map fun word ↦ replaceText mark text (word.length + 1) word
    | none =>
      if groups.isEmpty then (if options.has "r" then [] else [command])
      else groups.map fun group ↦ command ++ group
  return runAll (← called) (options.has "t") 0 commands

/-! ## find -/

/-- Something that is found. -/
structure Found where
  path : Bytes
  /-- The path from where the search began. -/
  below : Bytes
  location : Location
  node : Node
  depth : Nat

/-- What is asked of what is found, or done with it. -/
inductive Search
  | constant (value : Bool)
  | name (glob : List GlobPart) (ignoresCase : Bool)
  | path (glob : List GlobPart) (ignoresCase : Bool)
  | kind (letters : Bytes)
  | empty
  | size (sign : Int) (count unit : Nat)
  | runnable
  | print (ender : UInt8)
  | printf (pattern : Bytes)
  | run (command : List Bytes)
  | runLater (command : List Bytes)
  | delete
  | prune
  | quit
  | negated (inner : Search)
  | both (left right : Search)
  | either (left right : Search)
  | inTurn (left right : Search)

namespace Search

/-- Whether something is done with what is found. -/
def isActive : Search → Bool
  | print _ | printf _ | run _ | runLater _ | delete | quit => true
  | negated inner => inner.isActive
  | both left right | either left right | inTurn left right => left.isActive || right.isActive
  | _ => false

/-- Whether something that is found is removed. -/
def deletes : Search → Bool
  | delete => true
  | negated inner => inner.deletes
  | both left right | either left right | inTurn left right => left.deletes || right.deletes
  | _ => false

/-- How far a search has come. -/
structure SearchState where
  files : FileSystem
  pruned : List Location := []
  /-- The paths for commands that are run at the end. -/
  later : List (List Bytes × List Bytes) := []
  status : Nat := 0
  isOver : Bool := false

/-- The letter of a kind of file. -/
def kindLetter : Node → UInt8
  | .file _ | .program _ => byte 'f'
  | .directory => byte 'd'
  | .link _ => byte 'l'
  | .device _ => byte 'c'

/-- A format with what is found. -/
def printed (found : Found) : Bytes → Bytes
  | a :: b :: rest =>
    if a = byte '%' then
      (match Char.ofNat b.toNat with
        | 'p' => found.path
        | 'f' => lastName found.path
        | 'h' => if found.path.contains (byte '/') then directoryName found.path else bytes "."
        | 'P' => found.below
        | 's' => ofNatural (shownSize found.node)
        | 'd' => ofNatural found.depth
        | 'y' => [kindLetter found.node]
        | 'l' => match found.node with
          | .link target => Text.encode target
          | _ => []
        | '%' => bytes "%"
        | _ => [a, b]) ++ printed found rest
    else if a = byte '\\' then
      (match Char.ofNat b.toNat with
        | 'n' => [lineEnd]
        | 't' => [0x09]
        | '0' => [0]
        | '\\' => [b]
        | _ => [a, b]) ++ printed found rest
    else a :: printed found (b :: rest)
  | rest => rest

/-- A search applied to something found, with the rest of the plan behind it. -/
def apply (found : Found) : Search → SearchState → (Bool → SearchState → Plan) → Plan
  | constant value, progress, next => next value progress
  | name glob ignoresCase, progress, next =>
    let base := lastName found.path
    next (globMatches glob (if ignoresCase then base.map toSmall else base)) progress
  | path glob ignoresCase, progress, next =>
    next (globMatches glob (if ignoresCase then found.path.map toSmall else found.path)) progress
  | kind letters, progress, next => next (letters.contains (kindLetter found.node)) progress
  | empty, progress, next =>
    next (match found.node with
      | .file content => content.isEmpty
      | .directory => isEmptyDirectory progress.files found.location
      | _ => false) progress
  | size sign count unit, progress, next =>
    let amount := (shownSize found.node + unit - 1) / unit
    next (if sign < 0 then amount < count else if sign = 0 then amount == count else count < amount)
      progress
  | runnable, progress, next =>
    next (match found.node with
      | .directory | .program _ => true
      | _ => progress.files.runnable.contains found.location) progress
  | print ender, progress, next => .write false (found.path ++ [ender]) (next true progress)
  | printf pattern, progress, next => .write false (printed found pattern) (next true progress)
  | run command, progress, next =>
    match command.map fun word ↦ replaceText (bytes "\x7b\x7d") found.path (word.length + 1) word with
    | [] => next false progress
    | program :: arguments => .run { words := program :: arguments } fun
      | .exited status => next (status = 0) progress
      | .refused fault =>
        .write true (bytes "find: " ++ quotedText program ++ bytes ": " ++ reasonOf fault ++ [lineEnd])
          (next false progress)
      | _ => next false progress
  | runLater command, progress, next =>
    let before := ((progress.later.find? fun entry ↦ entry.1 == command).map Prod.snd).getD []
    next true { progress with
      later := (progress.later.filter fun entry ↦ entry.1 != command) ++
        [(command, before ++ [found.path])] }
  | delete, progress, next =>
    if found.path = bytes "." then next true progress
    else match found.node, isEmptyDirectory progress.files found.location with
      | .directory, false =>
        .write true (bytes "find: cannot delete " ++ quotedText found.path ++
          bytes ": Directory not empty\n") (next false { progress with status := 1 })
      | _, _ =>
        .change (fun files ↦ files.erase found.location)
          (next true { progress with files := progress.files.erase found.location })
  | prune, progress, next =>
    next true { progress with pruned := found.location :: progress.pruned }
  | quit, progress, next => next true { progress with isOver := true }
  | negated inner, progress, next => apply found inner progress fun value progress ↦ next (!value) progress
  | both left right, progress, next =>
    apply found left progress fun value progress ↦
      if value && !progress.isOver then apply found right progress next else next value progress
  | either left right, progress, next =>
    apply found left progress fun value progress ↦
      if value || progress.isOver then next value progress else apply found right progress next
  | inTurn left right, progress, next =>
    apply found left progress fun _ progress ↦ apply found right progress next

/-- A search applied to all that is found. -/
def applyAll (search : Search) : List Found → SearchState → Plan
  | [], progress =>
    progress.later.foldr (fun entry plan ↦
      match entry.1 with
      | program :: arguments => .run { words := program :: arguments ++ entry.2 } fun
        | .refused fault =>
          .write true (bytes "find: " ++ quotedText program ++ bytes ": " ++ reasonOf fault ++ [lineEnd]) plan
        | _ => plan
      | [] => plan) (.finish progress.status)
  | found :: rest, progress =>
    if progress.isOver || progress.pruned.any fun location ↦
        location.isPrefixOf found.location && location != found.location then
      applyAll search rest progress
    else search.apply found progress fun _ progress ↦ applyAll search rest progress

/-! ### Reading -/

/-- The depths within which something counts, and whether what is in a directory comes before it. -/
structure Extent where
  least : Nat := 0
  greatest : Option Nat := none
  depthFirst : Bool := false

/-- A search that is read, and the words behind it. -/
abbrev Result := Except Bytes (Search × Extent × List Bytes)

/-- The pattern in a word. -/
def globIn (ignoresCase : Bool) (word : Bytes) : List GlobPart :=
  globOf ((if ignoresCase then word.map toSmall else word).map fun b ↦ (b, false))

/-- The size that a word asks for. -/
def sizeIn (word : Bytes) : Option Search :=
  let sign : Int := if word.head? = some (byte '+') then 1
    else if word.head? = some (byte '-') then -1 else 0
  let rest := if sign = 0 then word else word.drop 1
  let unit := match rest.dropWhile isDecimal with
    | [] => some 512
    | [b] =>
      match Char.ofNat b.toNat with
      | 'b' => some 512
      | 'c' => some 1
      | 'w' => some 2
      | 'k' => some 1024
      | 'M' => some 1048576
      | 'G' => some 1073741824
      | _ => none
    | _ => none
  if (rest.takeWhile isDecimal).isEmpty then none
  else unit.map fun unit ↦ .size sign (number 10 (rest.takeWhile isDecimal)) unit

mutual

/-- Searches of which the last one counts. -/
def readAny : Nat → Extent → List Bytes → Result
  | 0, _, _ => .error (bytes "invalid expression")
  | fuel + 1, extent, words => do
    let (left, extent, rest) ← readEither fuel extent words
    if rest.head? = some (bytes ",") then
      let (right, extent, rest) ← readAny fuel extent (rest.drop 1)
      return (.inTurn left right, extent, rest)
    else return (left, extent, rest)

/-- Searches of which one has to hold. -/
def readEither : Nat → Extent → List Bytes → Result
  | 0, _, _ => .error (bytes "invalid expression")
  | fuel + 1, extent, words => do
    let (left, extent, rest) ← readBoth fuel extent words
    if rest.head? = some (bytes "-o") || rest.head? = some (bytes "-or") then
      let (right, extent, rest) ← readEither fuel extent (rest.drop 1)
      return (.either left right, extent, rest)
    else return (left, extent, rest)

/-- Searches that all have to hold. -/
def readBoth : Nat → Extent → List Bytes → Result
  | 0, _, _ => .error (bytes "invalid expression")
  | fuel + 1, extent, words => do
    let (left, extent, rest) ← readOne fuel extent words
    match rest with
    | [] => return (left, extent, [])
    | word :: after =>
      if [")", "-o", "-or", ","].any fun other ↦ bytes other == word then return (left, extent, rest)
      else
        let rest := if word = bytes "-a" || word = bytes "-and" then after else rest
        let (right, extent, rest) ← readBoth fuel extent rest
        return (.both left right, extent, rest)

/-- One search. -/
def readOne : Nat → Extent → List Bytes → Result
  | 0, _, _ => .error (bytes "invalid expression")
  | fuel + 1, extent, words => do
    match words with
    | [] => throw (bytes "invalid expression")
    | word :: rest =>
      let plain := fun (search : Search) ↦ (.ok (search, extent, rest) : Result)
      let withValue := fun (use : Bytes → Result) ↦
        match rest with
        | value :: _ => use value
        | [] => .error (bytes "missing argument to \x60" ++ word ++ bytes "\x27")
      let taken := fun (search : Search) ↦ (.ok (search, extent, rest.drop 1) : Result)
      let depth := fun (f : Nat → Extent) ↦ withValue fun value ↦
        if value.isEmpty || !value.all isDecimal then
          .error (bytes "Expected a positive decimal integer argument to " ++ word ++
            bytes ", but got " ++ quotedText value)
        else .ok (.constant true, f (number 10 value), rest.drop 1)
      match String.ofList (argument word) with
      | "(" =>
        let (inner, extent, rest) ← readAny fuel extent rest
        if rest.head? = some (bytes ")") then return (inner, extent, rest.drop 1)
        else throw (bytes "invalid expression; I was expecting to find a \x27)\x27 somewhere but did not see one.")
      | "!" | "-not" =>
        let (inner, extent, rest) ← readOne fuel extent rest
        return (.negated inner, extent, rest)
      | "-name" => withValue fun value ↦ taken (.name (globIn false value) false)
      | "-iname" => withValue fun value ↦ taken (.name (globIn true value) true)
      | "-path" | "-wholename" => withValue fun value ↦ taken (.path (globIn false value) false)
      | "-ipath" => withValue fun value ↦ taken (.path (globIn true value) true)
      | "-type" => withValue fun value ↦
          let letters := (cutAt (byte ',') value).flatten
          match letters.find? fun b ↦ !(bytes "bcdpflsD").contains b with
          | some b => .error (bytes "Unknown argument to -type: " ++ [b])
          | none => taken (.kind letters)
      | "-size" => withValue fun value ↦
          match sizeIn value with
          | some search => taken search
          | none => .error (bytes "Invalid argument \x60" ++ value ++ bytes "\x27 to -size")
      | "-empty" => plain .empty
      | "-executable" => plain .runnable
      | "-readable" | "-writable" | "-true" => plain (.constant true)
      | "-false" => plain (.constant false)
      | "-newer" | "-mtime" | "-mmin" | "-perm" | "-user" | "-group" =>
        withValue fun _ ↦ taken (.constant true)
      | "-maxdepth" => depth fun n ↦ { extent with greatest := some n }
      | "-mindepth" => depth fun n ↦ { extent with least := n }
      | "-depth" | "-d" => .ok (.constant true, { extent with depthFirst := true }, rest)
      | "-mount" | "-xdev" | "-noleaf" | "-follow" => plain (.constant true)
      | "-print" => plain (.print lineEnd)
      | "-print0" => plain (.print 0)
      | "-printf" => withValue fun value ↦ taken (.printf value)
      | "-delete" => .ok (.delete, { extent with depthFirst := true }, rest)
      | "-prune" => plain .prune
      | "-quit" => plain .quit
      | "-exec" | "-execdir" | "-ok" =>
        let command := rest.takeWhile fun word ↦ word != bytes ";" && word != bytes "+"
        match rest.drop command.length with
        | ender :: after =>
          if ender = bytes "+" && command.getLast? = some (bytes "\x7b\x7d") then
            return (.runLater command.dropLast, extent, after)
          else if ender = bytes ";" && !command.isEmpty then return (.run command, extent, after)
          else throw (bytes "missing argument to \x60" ++ word ++ bytes "\x27")
        | [] => throw (bytes "missing argument to \x60" ++ word ++ bytes "\x27")
      | _ =>
        if word.head? = some (byte '-') then
          throw (bytes "unknown predicate \x60" ++ word ++ bytes "\x27")
        else throw (bytes "paths must precede expression: \x60" ++ word ++ bytes "\x27")

end

end Search

/-- What is at a path and below it, each directory before what is in it or behind it. -/
def foundBelow (files : FileSystem) (extent : Search.Extent) (path : Bytes) (location : Location)
    (node : Node) : List Found :=
  let rec below : Nat → Bytes → Bytes → Location → Node → Nat → List Found
    | 0, _, _, _, _, _ => []
    | fuel + 1, path, relative, location, node, depth =>
      let self : List Found := if extent.least ≤ depth then [⟨path, relative, location, node, depth⟩] else []
      let isDeep := (extent.greatest.map fun n ↦ decide (n ≤ depth)).getD false
      let inside := if node == .directory && !isDeep then
          (files.children location).flatMap fun entry ↦
            let name := Text.encode entry.1
            below fuel (joinPath path name) (if relative.isEmpty then name else joinPath relative name)
              (location ++ [entry.1]) entry.2 (depth + 1)
        else []
      if extent.depthFirst then inside ++ self else self ++ inside
  below 256 path [] location node 0

/-- What is found below paths. -/
def find : Work Plan := do
  let arguments := (← read).arguments.dropWhile fun argument ↦
    argument = bytes "-L" || argument = bytes "-P" || argument = bytes "-H"
  let isExpression := fun (argument : Bytes) ↦
    argument.head? = some (byte '-') || argument = bytes "(" || argument = bytes "!"
  let paths := arguments.takeWhile fun argument ↦ !isExpression argument
  let words := arguments.drop paths.length
  let (search, extent) ← if words.isEmpty then pure (Search.constant true, {}) else
    match Search.readAny (8 * words.length + 16) {} words with
    | .ok (search, extent, []) => pure (search, extent)
    | .ok (_, _, word :: _) =>
      fail 1 (if word = bytes ")" then
        bytes "you have too many \x27)\x27" else bytes "paths must precede expression: \x60" ++ word ++ bytes "\x27")
    | .error message => fail 1 message
  let search := if search.isActive then search else .both search (.print lineEnd)
  let files := (← get).files
  let name ← called
  let found ← (if paths.isEmpty then [bytes "."] else paths).flatMapM fun path ↦ do
    match entryAt files path with
    | .ok (location, node) => return foundBelow files extent path location node
    | .error fault =>
      putError (name ++ bytes ": " ++ quotedText path ++ bytes ": " ++ reasonOf fault ++ [lineEnd])
      setStatus 1
      return []
  let status := (← get).status
  return search.applyAll found { files, status }

end CodeRepair.Shell
