import CodeRepair.Shell.Utility.FileTree
import CodeRepair.Shell.Utility.Stream

/-!
# Differences

`diff` tells by which changes one file becomes another.  A shortest way from the lines of the first one
to those of the second is found by searching from both ends at once until the searches meet; each half
is then divided in the same way.  Changes are moved as far towards the end as the lines allow.
-/

namespace CodeRepair.Shell

open Work

/-- Some lines of one file in the place of some lines of the other. -/
structure Change where
  /-- The lines in front of the change in the first file. -/
  oldStart : Nat
  deleted : Nat
  /-- The lines in front of the change in the second file. -/
  newStart : Nat
  inserted : Nat
  deriving DecidableEq, Repr

namespace Difference

/-- Marks of lines that are not in the other file. -/
abbrev Marks := Array Bool

/-- Whether the line at a place is marked; there is no place in front of the first line. -/
def isMarked (marks : Marks) (place : Int) : Bool :=
  0 ≤ place && marks.getD place.toNat false

/-! ## A shortest way -/

/-- What is compared: lines as numbers, the same ones for equal lines. -/
structure Pair where
  old : Array Nat
  new : Array Nat

/-- Whether two lines are equal. -/
def Pair.agree (pair : Pair) (x y : Int) : Bool :=
  pair.old.getD x.toNat 0 == pair.new.getD y.toNat 1

/-- A part of the lines of both files. -/
structure Region where
  oldStart : Int
  oldEnd : Int
  newStart : Int
  newEnd : Int

/-- How far the lines agree from a place on. -/
def slideDown (pair : Pair) (region : Region) : Nat → Int → Int → Int
  | 0, x, _ => x
  | fuel + 1, x, y =>
    if x < region.oldEnd && y < region.newEnd && pair.agree x y then
      slideDown pair region fuel (x + 1) (y + 1)
    else x

/-- How far the lines agree in front of a place. -/
def slideUp (pair : Pair) (region : Region) : Nat → Int → Int → Int
  | 0, x, _ => x
  | fuel + 1, x, y =>
    if region.oldStart < x && region.newStart < y && pair.agree (x - 1) (y - 1) then
      slideUp pair region fuel (x - 1) (y - 1)
    else x

/-- The reach with another value on a diagonal. -/
def setReach (reach : Array Int) (offset diagonal value : Int) : Array Int :=
  reach.setIfInBounds (diagonal + offset).toNat value

/-- The state of the search: how far both fronts have come on each diagonal. -/
structure Search where
  down : Array Int
  downLeast : Int
  downGreatest : Int
  up : Array Int
  upLeast : Int
  upGreatest : Int

/-- The bounds of a front after one more step. -/
def widened (least greatest lowest highest : Int) : Int × Int :=
  (if lowest < least then least - 1 else least + 1,
    if greatest < highest then greatest + 1 else greatest - 1)

/-- Every other number from one down to another. -/
def alternate (least greatest : Int) : List Int :=
  (List.range ((greatest - least) / 2 + 1).toNat).map fun (n : Nat) ↦ greatest - 2 * (n : Int)

/-- A number that is greater than any place. -/
def beyond : Int := 1000000000

/-- Where the two searches meet, the search going on for so many steps. -/
def meeting (pair : Pair) (region : Region) (offset : Int) : Nat → Search → Int × Int
  | 0, _ => (region.oldStart, region.newStart)
  | fuel + 1, search =>
    let lowest := region.oldStart - region.newEnd
    let highest := region.oldEnd - region.newStart
    let isOdd := (region.oldStart - region.newStart - (region.oldEnd - region.newEnd)) % 2 != 0
    let slides := (region.oldEnd - region.oldStart).toNat
    let get := fun (reach : Array Int) (diagonal : Int) ↦ reach.getD (diagonal + offset).toNat 0
    let (least, greatest) := widened search.downLeast search.downGreatest lowest highest
    let down := if lowest < search.downLeast then setReach search.down offset (least - 1) (-1) else search.down
    let down := if search.downGreatest < highest then setReach down offset (greatest + 1) (-1) else down
    let (down, found) := (alternate least greatest).foldl (fun (down, found) d ↦
      if Option.isSome found then (down, found)
      else
        let low := get down (d - 1)
        let high := get down (d + 1)
        let start := if low < high then high else low + 1
        let x := slideDown pair region slides start (start - d)
        let down := setReach down offset d x
        let meets := isOdd && search.upLeast ≤ d && d ≤ search.upGreatest && get search.up d ≤ x
        (down, if meets then some (x, x - d) else none)) (down, (none : Option (Int × Int)))
    match found with
    | some place => place
    | none =>
      let (upLeast, upGreatest) := widened search.upLeast search.upGreatest lowest highest
      let up := if lowest < search.upLeast then setReach search.up offset (upLeast - 1) beyond else search.up
      let up := if search.upGreatest < highest then setReach up offset (upGreatest + 1) beyond else up
      let (up, found) := (alternate upLeast upGreatest).foldl (fun (up, found) d ↦
        if Option.isSome found then (up, found)
        else
          let low := get up (d - 1)
          let high := get up (d + 1)
          let start := if low < high then low else high - 1
          let x := slideUp pair region slides start (start - d)
          let up := setReach up offset d x
          let meets := !isOdd && least ≤ d && d ≤ greatest && x ≤ get down d
          (up, if meets then some (x, x - d) else none)) (up, (none : Option (Int × Int)))
      match found with
      | some place => place
      | none => meeting pair region offset fuel ⟨down, least, greatest, up, upLeast, upGreatest⟩

/-- The lines from one place up to another are marked. -/
def mark (marks : Marks) (start finish : Int) : Marks :=
  (List.range (finish - start).toNat).foldl (fun marks n ↦
    marks.setIfInBounds (start.toNat + n) true) marks

/-- The lines that a shortest way deletes and inserts in a region. -/
def compareRegion (pair : Pair) : Nat → Region → Marks × Marks → Marks × Marks
  | 0, _, marks => marks
  | fuel + 1, region, marks =>
    let length := (region.oldEnd - region.oldStart).toNat
    let x := slideDown pair region length region.oldStart region.newStart
    let region := { region with
      oldStart := x, newStart := region.newStart + (x - region.oldStart) }
    let x := slideUp pair region length region.oldEnd region.newEnd
    let region := { region with oldEnd := x, newEnd := region.newEnd - (region.oldEnd - x) }
    if region.oldStart = region.oldEnd then (marks.1, mark marks.2 region.newStart region.newEnd)
    else if region.newStart = region.newEnd then (mark marks.1 region.oldStart region.oldEnd, marks.2)
    else
      let offset : Int := pair.new.size + 1
      let blank : Array Int := Array.replicate (pair.old.size + pair.new.size + 3) 0
      let first := region.oldStart - region.newStart
      let last := region.oldEnd - region.newEnd
      let search : Search := ⟨setReach blank offset first region.oldStart, first, first,
        setReach blank offset last region.oldEnd, last, last⟩
      let (x, y) := meeting pair region offset (pair.old.size + pair.new.size + 2) search
      let marks := compareRegion pair fuel { region with oldEnd := x, newEnd := y } marks
      compareRegion pair fuel { region with oldStart := x, newStart := y } marks

/-- The marks of the lines of two files.  Lines that are not in the other file at all are left out of the
search. -/
def compareLines (old new : Array Nat) : Marks × Marks :=
  let shared := fun (lines others : Array Nat) ↦
    (List.range lines.size).filter fun n ↦ others.contains (lines.getD n 0)
  let keptOld := (shared old new).toArray
  let keptNew := (shared new old).toArray
  let pair : Pair := ⟨keptOld.map fun n ↦ old.getD n 0, keptNew.map fun n ↦ new.getD n 0⟩
  let region : Region := ⟨0, keptOld.size, 0, keptNew.size⟩
  let (deleted, inserted) := compareRegion pair (keptOld.size + keptNew.size + 1) region
    (Array.replicate keptOld.size false, Array.replicate keptNew.size false)
  let spread := fun (size : Nat) (kept : Array Nat) (marks : Marks) ↦
    (List.range kept.size).foldl (fun (all : Marks) n ↦
      all.setIfInBounds (kept.getD n 0) (marks.getD n false)) (Array.replicate size true)
  (spread old.size keptOld deleted, spread new.size keptNew inserted)

/-! ## Moving changes -/

/-- The place behind the marked lines that begin at one. -/
def skipMarked (marks : Marks) : Nat → Int → Int
  | 0, place => place
  | fuel + 1, place => if isMarked marks place then skipMarked marks fuel (place + 1) else place

/-- The place of the first of the marked lines in front of one. -/
def skipMarkedBack (marks : Marks) : Nat → Int → Int
  | 0, place => place
  | fuel + 1, place => if isMarked marks (place - 1) then skipMarkedBack marks fuel (place - 1) else place

/-- The place of the nearest line without a mark in front of one. -/
def previousUnmarked (marks : Marks) : Nat → Int → Int
  | 0, place => place
  | fuel + 1, place => if isMarked marks (place - 1) then previousUnmarked marks fuel (place - 1) else place - 1

/-- A run of marked lines that is moved, with the place in the other file that goes with its end. -/
structure Run where
  marks : Marks
  start : Int
  finish : Int
  other : Int
  /-- The last end of the run that goes with marked lines in the other file. -/
  corresponding : Int

/-- A line's mark is set. -/
def setMark (marks : Marks) (place : Int) (value : Bool) : Marks :=
  marks.setIfInBounds place.toNat value

/-- The run moved towards the beginning as far as the lines allow. -/
def moveBack (lines : Array Nat) (others : Marks) (bound : Nat) : Nat → Run → Run
  | 0, run => run
  | fuel + 1, run =>
    if 0 < run.start &&
        lines.getD (run.start - 1).toNat 0 == lines.getD (run.finish - 1).toNat 0 then
      let marks := setMark (setMark run.marks (run.start - 1) true) (run.finish - 1) false
      moveBack lines others bound fuel { run with
        marks
        start := skipMarkedBack marks bound (run.start - 1)
        finish := run.finish - 1
        other := previousUnmarked others bound run.other }
    else run

/-- The run moved towards the end as far as the lines allow. -/
def moveForward (lines : Array Nat) (others : Marks) (bound : Nat) : Nat → Run → Run
  | 0, run => run
  | fuel + 1, run =>
    if run.finish < lines.size &&
        lines.getD run.start.toNat 0 == lines.getD run.finish.toNat 0 then
      let marks := setMark (setMark run.marks run.start false) run.finish true
      let finish := skipMarked marks bound (run.finish + 1)
      let other := skipMarked others bound (run.other + 1)
      moveForward lines others bound fuel { run with
        marks
        start := run.start + 1
        finish
        other
        corresponding := if run.other + 1 < other then finish else run.corresponding }
    else run

/-- The run moved both ways until it does not grow any more by taking up others. -/
def settleRun (lines : Array Nat) (others : Marks) (bound : Nat) : Nat → Run → Run
  | 0, run => run
  | fuel + 1, run =>
    let length := run.finish - run.start
    let run := moveBack lines others bound bound run
    let run := { run with
      corresponding := if isMarked others (run.other - 1) then run.finish else lines.size }
    let run := moveForward lines others bound bound run
    if run.finish - run.start = length then run else settleRun lines others bound fuel run

/-- The run moved back to where it last went with marked lines of the other file. -/
def returnRun (others : Marks) (bound : Nat) : Nat → Run → Run
  | 0, run => run
  | fuel + 1, run =>
    if run.corresponding < run.finish then
      returnRun others bound fuel { run with
        marks := setMark (setMark run.marks (run.start - 1) true) (run.finish - 1) false
        start := run.start - 1
        finish := run.finish - 1
        other := previousUnmarked others bound run.other }
    else run

/-- Each run of marked lines behind a place moved as far towards the end as the lines allow. -/
def moveRuns (lines : Array Nat) (others : Marks) (bound : Nat) : Nat → Int → Int → Marks → Marks
  | 0, _, _, marks => marks
  | fuel + 1, place, other, marks =>
    if lines.size ≤ place then marks
    else if !isMarked marks place then
      moveRuns lines others bound fuel (place + 1) (skipMarked others bound other + 1) marks
    else
      let finish := skipMarked marks bound place
      let run : Run := ⟨marks, place, finish, skipMarked others bound other, lines.size⟩
      let run := returnRun others bound bound (settleRun lines others bound bound run)
      moveRuns lines others bound fuel run.finish run.other run.marks

/-! ## Changes -/

/-- The changes that marks stand for. -/
def changesOf (old new : Marks) : Nat → Nat → Nat → List Change
  | 0, _, _ => []
  | fuel + 1, x, y =>
    if old.size ≤ x && new.size ≤ y then []
    else
      let deleted := (skipMarked old old.size x - x).toNat
      let inserted := (skipMarked new new.size y - y).toNat
      if deleted = 0 && inserted = 0 then changesOf old new fuel (x + 1) (y + 1)
      else ⟨x, deleted, y, inserted⟩ :: changesOf old new fuel (x + deleted) (y + inserted)

/-- How many lines two lists have in common at their beginnings. -/
def commonLength : List Bytes → List Bytes → Nat
  | a :: as, b :: bs => if a = b then commonLength as bs + 1 else 0
  | _, _ => 0

/-- Lines as numbers, the same ones for lines that count as equal. -/
def numberedLines (texts : List Bytes) : List Nat :=
  texts.map fun text ↦ (texts.idxOf? text).getD 0

/-- The changes that make the first lines the second ones.  The lines that both begin and end with are
left out, but for as many as are to be shown around changes. -/
def changes (context : Nat) (compared : Bytes → Bytes) (old new : List Bytes) : List Change :=
  let before := commonLength old new
  let after := commonLength (old.drop before).reverse (new.drop before).reverse
  let skipped := before - context
  let dropped := after - context
  let part := fun (lines : List Bytes) ↦ (lines.drop skipped).take (lines.length - skipped - dropped)
  let numbers := numberedLines ((part old ++ part new).map compared)
  let oldLines := (numbers.take (part old).length).toArray
  let newLines := (numbers.drop (part old).length).toArray
  let bound := oldLines.size + newLines.size + 2
  let (oldMarks, newMarks) := compareLines oldLines newLines
  let oldMarks := moveRuns oldLines newMarks bound bound 0 0 oldMarks
  let newMarks := moveRuns newLines oldMarks bound bound 0 0 newMarks
  (changesOf oldMarks newMarks bound 0 0).map fun change ↦
    { change with oldStart := change.oldStart + skipped, newStart := change.newStart + skipped }

/-! ## Writing changes -/

/-- A line behind a mark, and what is said if no line feed ends it. -/
def markedLine (mark : Bytes) (line : Bytes) : Bytes :=
  mark ++ if line.getLast? = some lineEnd then line else line ++ bytes "\n\\ No newline at end of file\n"

/-- A range of lines by the numbers of its first and last one. -/
def rangeText (start count : Nat) : Bytes :=
  if count ≤ 1 then ofNatural (start + count)
  else ofNatural (start + 1) ++ byte ',' :: ofNatural (start + count)

/-- A change with the lines that it is about. -/
def plainChange (old new : List Bytes) (change : Change) : Bytes :=
  let letter := if change.deleted = 0 then "a" else if change.inserted = 0 then "d" else "c"
  rangeText change.oldStart change.deleted ++ bytes letter ++
    rangeText change.newStart change.inserted ++ [lineEnd] ++
    ((old.drop change.oldStart).take change.deleted).flatMap (markedLine (bytes "< ")) ++
    (if change.deleted != 0 && change.inserted != 0 then bytes "---\n" else []) ++
    ((new.drop change.newStart).take change.inserted).flatMap (markedLine (bytes "> "))

/-- Changes in groups that are shown together, because the lines around them meet. -/
def grouped (context : Nat) : List Change → List (List Change)
  | [] => []
  | change :: rest =>
    match grouped context rest with
    | (next :: more) :: groups =>
      if next.oldStart - (change.oldStart + change.deleted) ≤ 2 * context then
        (change :: next :: more) :: groups
      else [change] :: (next :: more) :: groups
    | groups => [change] :: groups

/-- A range of lines by the number of its first one and how many there are. -/
def countedRange (start count : Nat) : Bytes :=
  if count = 1 then ofNatural (start + 1)
  else ofNatural (if count = 0 then start else start + 1) ++ byte ',' :: ofNatural count

/-- The ranges of lines that a group of changes is shown with. -/
def extentOf (context : Nat) (old new : List Bytes) (group : List Change) : Region :=
  match group.head?, group.getLast? with
  | some first, some last =>
    ⟨first.oldStart - min context first.oldStart, min old.length (last.oldStart + last.deleted + context),
      first.newStart - min context first.newStart, min new.length (last.newStart + last.inserted + context)⟩
  | _, _ => ⟨0, 0, 0, 0⟩

/-- The lines from one place up to another, each behind a mark. -/
def markedLines (mark : String) (lines : List Bytes) (start finish : Int) : Bytes :=
  ((lines.drop start.toNat).take (finish - start).toNat).flatMap (markedLine (bytes mark))

/-- A group of changes in one range of lines. -/
def unifiedGroup (context : Nat) (old new : List Bytes) (group : List Change) : Bytes :=
  let extent := extentOf context old new group
  let range := fun (start finish : Int) ↦ countedRange start.toNat (finish - start).toNat
  let (body, place) := group.foldl (fun ((body, place) : Bytes × Int) change ↦
    (body ++ markedLines " " old place change.oldStart ++
      markedLines "-" old change.oldStart (change.oldStart + change.deleted) ++
      markedLines "+" new change.newStart (change.newStart + change.inserted),
      (change.oldStart + change.deleted : Int))) ([], extent.oldStart)
  bytes "@@ -" ++ range extent.oldStart extent.oldEnd ++ bytes " +" ++ range extent.newStart extent.newEnd ++
    bytes " @@\n" ++ body ++ markedLines " " old place extent.oldEnd

/-- One side of a group of changes that is shown in two ranges of lines. -/
def contextSide (lines : List Bytes) (start finish : Int) (marked : List (Int × Int × Bool)) (mark : String) :
    Bytes :=
  let (body, place) := marked.foldl (fun ((body, place) : Bytes × Int) (first, last, isReplaced) ↦
    (body ++ markedLines "  " lines place first ++
      markedLines (if isReplaced then "! " else mark) lines first last, last)) ([], start)
  body ++ markedLines "  " lines place finish

/-- A group of changes in two ranges of lines. -/
def contextGroup (context : Nat) (old new : List Bytes) (group : List Change) : Bytes :=
  let extent := extentOf context old new group
  let isReplaced := fun (change : Change) ↦ change.deleted != 0 && change.inserted != 0
  let range := fun (start finish : Int) ↦ rangeText start.toNat (finish - start).toNat
  bytes "***************\n*** " ++ range extent.oldStart extent.oldEnd ++ bytes " ****\n" ++
    (if group.any fun change ↦ change.deleted != 0 then
      contextSide old extent.oldStart extent.oldEnd (group.map fun change ↦
        (change.oldStart, change.oldStart + change.deleted, isReplaced change)) "- "
    else []) ++
    bytes "--- " ++ range extent.newStart extent.newEnd ++ bytes " ----\n" ++
    (if group.any fun change ↦ change.inserted != 0 then
      contextSide new extent.newStart extent.newEnd (group.map fun change ↦
        (change.newStart, change.newStart + change.inserted, isReplaced change)) "+ "
    else [])

end Difference

/-! ## diff -/

/-- A line with everything left out that options do not look at. -/
def comparedLine (options : Options) (line : Bytes) : Bytes :=
  let dropEnd := fun (text : Bytes) ↦ (text.reverse.dropWhile isWhite).reverse
  let text := if options.has "strip-trailing-cr" && (bytes "\r\n").isSuffixOf line then
      line.take (line.length - 2) ++ [lineEnd] else line
  let text := if options.has "w" then text.filter fun b ↦ !isWhite b
    else if options.has "b" then
      (dropEnd text).foldr (fun b (rest : Bytes) ↦
        if isWhite b then (if rest.head? = some (byte ' ') then rest else byte ' ' :: rest) else b :: rest) []
    else if options.has "Z" then dropEnd text
    else text
  if options.has "i" then text.map toSmall else text

/-- How changes are shown. -/
inductive ChangeForm
  | plain
  | unified (context : Nat)
  | around (context : Nat)

/-- How options ask for changes to be shown. -/
def changeForm (options : Options) : Work ChangeForm := do
  let number := fun (key : String) ↦ (do
    let value := (options.value? key).getD []
    if value.isEmpty then return 3
    else match amount? value with
      | some n => return n
      | none => misuse 2 (bytes "invalid context length " ++ quotedText value) : Work Nat)
  match options.last? ["u", "U", "unified", "c", "C", "context", "normal"] with
  | some "u" => return .unified 3
  | some "c" => return .around 3
  | some "U" => return .unified (← number "U")
  | some "unified" => return .unified (← number "unified")
  | some "C" => return .around (← number "C")
  | some "context" => return .around (← number "context")
  | _ => return .plain

/-- The lines above changes that name the files. -/
def changeHeading (options : Options) (marks : String × String) (first second : Bytes) : Bytes :=
  let labels := options.values "L"
  let name := fun (n : Nat) (path : Bytes) ↦
    match labels[n]? with
    | some label => label
    | none => path ++ bytes "\t1970-01-01 00:00:00.000000000 +0000"
  bytes marks.1 ++ name 0 first ++ lineEnd :: bytes marks.2 ++ name 1 second ++ [lineEnd]

/-- Two contents compared; the result is the status.  A heading goes in front of changes. -/
def compareContents (options : Options) (form : ChangeForm) (heading first second : Bytes)
    (old new : Bytes) : Work Nat := do
  let isExact := (["i", "b", "w", "B", "Z", "strip-trailing-cr"].any options.has) == false
  if options.has "q" && old != new && isExact then
    putLine (bytes "Files " ++ first ++ bytes " and " ++ second ++ bytes " differ")
    return 1
  else if !options.has "a" && old != new && (old.contains 0 || new.contains 0) then
    putLine (bytes "Binary files " ++ first ++ bytes " and " ++ second ++ bytes " differ")
    return 1
  else
    let oldLines := linesOf old
    let newLines := linesOf new
    let context := match form with
      | .plain => 0
      | .unified context => context
      | .around context => context
    let isBlank := fun (line : Bytes) ↦ chomp line == []
    let changes := (Difference.changes context (comparedLine options) oldLines newLines).filter
      fun change ↦
        !(options.has "B" && ((oldLines.drop change.oldStart).take change.deleted).all isBlank &&
          ((newLines.drop change.newStart).take change.inserted).all isBlank)
    if changes.isEmpty then
      if options.has "s" then
        putLine (bytes "Files " ++ first ++ bytes " and " ++ second ++ bytes " are identical")
      return 0
    else if options.has "q" then
      putLine (bytes "Files " ++ first ++ bytes " and " ++ second ++ bytes " differ")
      return 1
    else
      put heading
      match form with
      | .plain => put (changes.flatMap (Difference.plainChange oldLines newLines))
      | .unified context =>
        put (changeHeading options ("--- ", "+++ ") first second ++
          (Difference.grouped context changes).flatMap (Difference.unifiedGroup context oldLines newLines))
      | .around context =>
        put (changeHeading options ("*** ", "--- ") first second ++
          (Difference.grouped context changes).flatMap (Difference.contextGroup context oldLines newLines))
      return 1

/-- Two files compared, either of which may be missing where that means that it is empty. -/
def compareFiles (options : Options) (form : ChangeForm) (heading first second : Bytes) : Work Nat := do
  let load := fun (path : Bytes) ↦ (do
    match ← readPath path with
    | .ok content => return some content
    | .error fault =>
      if options.has "N" && fault = .notFound then return some []
      else
        warn (path ++ bytes ": " ++ Text.encode fault.reason)
        return none : Work (Option Bytes))
  match ← load first, ← load second with
  | some old, some new => compareContents options form heading first second old new
  | _, _ => return 2

/-- Two directories compared, name by name; the result is the status. -/
def compareDirectories (options : Options) (form : ChangeForm) (given : Bytes) : Nat → Bytes → Bytes → Work Nat
  | 0, _, _ => return 0
  | fuel + 1, first, second => do
    let files := (← get).files
    let entries : Bytes → List (Bytes × Node) := fun path ↦
      match files.locate (argument path) with
      | .ok (location, .directory) => (files.children location).map fun entry ↦ (Text.encode entry.1, entry.2)
      | _ => []
    let (old, new) := (entries first, entries second)
    let names := ((old ++ new).map Prod.fst).eraseDups.mergeSort fun a b ↦ compareBytes a b != .gt
    let nodeOf := fun (entries : List (Bytes × Node)) (name : Bytes) ↦
      (entries.find? fun entry ↦ entry.1 == name).map Prod.snd
    names.foldlM (fun status name ↦ do
      let one := joinPath first name
      let two := joinPath second name
      let only := fun (directory : Bytes) ↦ (do
        putLine (bytes "Only in " ++ directory ++ bytes ": " ++ name)
        return 1 : Work Nat)
      let heading := bytes "diff" ++ given ++ byte ' ' :: one ++ byte ' ' :: two ++ [lineEnd]
      let next ← match nodeOf old name, nodeOf new name with
        | some .directory, some .directory =>
          if options.has "r" then compareDirectories options form given fuel one two
          else
            putLine (bytes "Common subdirectories: " ++ one ++ bytes " and " ++ two)
            pure 0
        | some .directory, some _ =>
          putLine (bytes "File " ++ one ++ bytes " is a directory while file " ++ two ++
            bytes " is a regular file")
          pure 1
        | some _, some .directory =>
          putLine (bytes "File " ++ one ++ bytes " is a regular file while file " ++ two ++
            bytes " is a directory")
          pure 1
        | some _, some _ => compareFiles options form heading one two
        | lone, other =>
          if !options.has "N" then only (if lone.isSome then first else second)
          else if (lone <|> other) = some .directory then
            if options.has "r" then compareDirectories options form given fuel one two
            else only (if lone.isSome then first else second)
          else compareFiles options form heading one two
      return max status next) 0

/-- The differences between two files or directories. -/
def diff : Utility := do
  let options ← options [flag 'a' "text", flag 'b' "ignore-space-change", flag 'B' "ignore-blank-lines",
    flag 'c' "", taking 'C' "", ⟨none, "context", .perhaps⟩, flag 'd' "minimal", flag 'H' "speed-large-files",
    flag 'i' "ignore-case", taking 'L' "label", flag 'N' "new-file", long "normal", flag 'q' "brief",
    flag 'r' "recursive", flag 's' "report-identical-files", long "strip-trailing-cr", flag 't' "expand-tabs",
    flag 'u' "", taking 'U' "", taking 'x' "exclude", ⟨none, "unified", .perhaps⟩, flag 'w' "ignore-all-space",
    flag 'Z' "ignore-trailing-space", ⟨none, "color", .perhaps⟩] 2 false
  let form ← changeForm options
  match options.operands with
  | [] => misuse 2 (bytes "missing operand after " ++ quotedText (((← read).arguments.getLast?).getD (← called)))
  | [only] => misuse 2 (bytes "missing operand after " ++ quotedText only)
  | [first, second] =>
    let view ← view
    let isDirectory := fun (path : Bytes) ↦ view.kind? path == some .directory
    let given := ((← read).arguments.filter fun argument ↦ !options.operands.contains argument).flatMap
      fun argument ↦ byte ' ' :: argument
    let within := fun (directory path : Bytes) ↦ (do
      if path = bytes "-" then fail 2 (bytes "cannot compare \x27-\x27 to a directory")
      else match ← missing? path with
        | some fault => fail 2 (path ++ bytes ": " ++ Text.encode fault.reason)
        | none => return joinPath directory (lastName path) : Work Bytes)
    let status ← match isDirectory first, isDirectory second with
      | true, true =>
        if view.areSame first second then pure 0
        else compareDirectories options form given (view.files.nodes.length + 1) first second
      | true, false => compareFiles options form [] (← within first second) second
      | false, true => compareFiles options form [] first (← within second first)
      | false, false => compareFiles options form [] first second
    setStatus status
  | _ :: _ :: extra :: _ => misuse 2 (bytes "extra operand " ++ quotedText extra)

end CodeRepair.Shell
