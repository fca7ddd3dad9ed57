import CodeRepair.Shell.Utility.Order

/-!
# Joining lines

`join` puts together the lines of two files that agree in a field.  Both files are read in step, in the
order of that field, so a file that is out of order may leave lines alone that would agree.
-/

namespace CodeRepair.Shell

open Work

namespace Joining

/-- A field of the output: the field by which lines are joined, or one of a file. -/
inductive OutputField
  | key
  | own (file field : Nat)

/-- How lines are joined. -/
structure Manner where
  /-- The byte between fields; there is none if a line is one field. -/
  separator? : Option UInt8
  /-- Whether fields are separated by blanks. -/
  byBlanks : Bool
  /-- The fields by which lines are joined, counted from zero. -/
  keys : Nat × Nat
  ignoresCase : Bool
  filler : Bytes
  output : List OutputField
  /-- Whether the order is checked from the beginning, as soon as lines stay alone, or never. -/
  checks : Option Bool
  ender : UInt8

/-- A line with its fields. -/
structure Record where
  text : Bytes
  fields : Array Bytes

/-- Whether a byte separates fields where no other one does. -/
def isFieldBreak (b : UInt8) : Bool :=
  b == byte ' ' || b == 0x09 || b == lineEnd

/-- The words between blanks.  There is an empty one behind the last blanks. -/
def wordsBetweenBlanks (text : Bytes) : List Bytes :=
  let words := (text.foldr (fun b (words : List Bytes) ↦
    if isFieldBreak b then [] :: words
    else match words with
      | word :: rest => (b :: word) :: rest
      | [] => [[b]]) [[]]).filter fun word ↦ !word.isEmpty
  if !words.isEmpty && (text.getLast?.map isFieldBreak).getD false then words ++ [[]] else words

/-- A line in its fields. -/
def recordOf (manner : Manner) (text : Bytes) : Record :=
  ⟨text, (if manner.byBlanks then wordsBetweenBlanks text
    else match manner.separator? with
      | some b => if text.isEmpty then [] else cutAt b text
      | none => [text]).toArray⟩

/-- The field of a record by which it is joined. -/
def keyOf (manner : Manner) (isFirst : Bool) (record : Record) : Bytes :=
  let key := record.fields.getD (if isFirst then manner.keys.1 else manner.keys.2) []
  if manner.ignoresCase then key.map toCapital else key

/-- A line of the output, of which one of the records may be missing. -/
def joined (manner : Manner) (first second : Option Record) : Bytes :=
  let separator := manner.separator?.getD (byte ' ')
  let shown := fun (field : Option Bytes) ↦
    match field with
    | some text => if text.isEmpty then manner.filler else text
    | none => manner.filler
  let field := fun (record : Option Record) (n : Nat) ↦ record.bind fun record ↦ record.fields[n]?
  let key := match first with
    | some _ => field first manner.keys.1
    | none => field second manner.keys.2
  let others := fun (record : Option Record) (key : Nat) ↦
    match record with
    | some record => (record.fields.toList.zipIdx.filter fun entry ↦ entry.2 != key).map fun entry ↦
        shown (some entry.1)
    | none => []
  let texts := if manner.output.isEmpty then
      shown key :: (others first manner.keys.1 ++ others second manner.keys.2)
    else manner.output.map fun output ↦
      match output with
      | .key => shown key
      | .own 1 n => shown (field first n)
      | .own _ n => shown (field second n)
  List.intercalate [separator] texts ++ [manner.ender]

/-- A file that is being read. -/
structure Source where
  name : Bytes
  isFirst : Bool
  /-- The lines that are still to be read. -/
  rest : List Bytes
  /-- How many lines have been read. -/
  count : Nat := 0
  last? : Option Record := none
  isDisordered : Bool := false

/-- The next record of a source.  It is complained about if it is out of order and that is checked. -/
def nextRecord (manner : Manner) (seenAlone : Bool) (source : Source) : Work (Option Record × Source) := do
  match source.rest with
  | [] => return (none, source)
  | line :: rest =>
    let record := recordOf manner line
    let next := { source with rest, count := source.count + 1, last? := some record }
    let isChecked := match manner.checks with
      | some true => true
      | some false => false
      | none => seenAlone
    match source.last? with
    | some last =>
      if isChecked && !source.isDisordered &&
          compareBytes (keyOf manner source.isFirst last) (keyOf manner source.isFirst record) = .gt then
        let message := source.name ++ byte ':' :: ofNatural next.count ++ bytes ": is not sorted: " ++ line
        if manner.checks = some true then fail 1 message
        else warn message
        return (some record, { next with isDisordered := true })
      else return (some record, next)
    | none => return (some record, next)

/-- Where the joining stands: both sources, and the record that comes next from each. -/
structure Standing where
  first : Source
  second : Source
  left? : Option Record
  right? : Option Record
  /-- Whether a line has stayed alone. -/
  seenAlone : Bool := false

/-- The records of a source that agree with one, and the first one that does not. -/
def takeGroup (manner : Manner) (seenAlone : Bool) (agrees : Record → Bool) :
    Nat → Source → List Record → Work (List Record × Option Record × Source)
  | 0, source, group => return (group.reverse, none, source)
  | fuel + 1, source, group => do
    match ← nextRecord manner seenAlone source with
    | (none, source) => return (group.reverse, none, source)
    | (some record, source) =>
      if agrees record then takeGroup manner seenAlone agrees fuel source (record :: group)
      else return (group.reverse, some record, source)

/-- Lines of both sources joined until one of them has no more. -/
def joinAll (manner : Manner) (pairs : Bool) (alone : Bool × Bool) : Nat → Standing → Work Standing
  | 0, standing => return standing
  | fuel + 1, standing => do
    match standing.left?, standing.right? with
    | some left, some right =>
      match compareBytes (keyOf manner true left) (keyOf manner false right) with
      | .lt =>
        if alone.1 then put (joined manner (some left) none)
        let (left?, first) ← nextRecord manner standing.seenAlone standing.first
        joinAll manner pairs alone fuel { standing with first, left?, seenAlone := true }
      | .gt =>
        if alone.2 then put (joined manner none (some right))
        let (right?, second) ← nextRecord manner standing.seenAlone standing.second
        joinAll manner pairs alone fuel { standing with second, right?, seenAlone := true }
      | .eq =>
        let (lefts, left?, first) ← takeGroup manner standing.seenAlone
          (fun record ↦ keyOf manner true record == keyOf manner false right)
          (standing.first.rest.length + 1) standing.first [left]
        let (rights, right?, second) ← takeGroup manner standing.seenAlone
          (fun record ↦ keyOf manner true left == keyOf manner false record)
          (standing.second.rest.length + 1) standing.second [right]
        if pairs then
          for one in lefts do
            for other in rights do
              put (joined manner (some one) (some other))
        joinAll manner pairs alone fuel { standing with first, second, left?, right? }
    | _, _ => return standing

/-- What is left of a source, all of which stays alone. -/
def finish (manner : Manner) (seenAlone : Bool) (shows : Bool) (write : Record → Bytes) :
    Nat → Source → Option Record → Work Source
  | 0, source, _ => return source
  | _, source, none => return source
  | fuel + 1, source, some record => do
    if shows then put (write record)
    let (next?, source) ← nextRecord manner seenAlone source
    finish manner seenAlone shows write fuel source next?

/-- A field number, counted from zero. -/
def fieldNumber (text : Bytes) : Work Nat := do
  if !text.isEmpty && text.all isDecimal && 0 < number 10 text then return number 10 text - 1
  else fail 1 (bytes "invalid field number: " ++ quotedText text)

/-- The fields of the output that a list names. -/
def outputFields (list : Bytes) : Work (List OutputField) :=
  let words := (cutAt (byte ',') (list.map fun b ↦ if b = byte ' ' || b = 0x09 then byte ',' else b))
  words.mapM fun word ↦ do
    match word with
    | [zero] =>
      if zero = byte '0' then return .key
      else if zero = byte '1' || zero = byte '2' then
        fail 1 (bytes "invalid field specifier: " ++ quotedText word)
      else fail 1 (bytes "invalid file number in field spec: " ++ quotedText word)
    | file :: point :: field =>
      if file = byte '0' then fail 1 (bytes "invalid field specifier: " ++ quotedText word)
      else if file != byte '1' && file != byte '2' then
        fail 1 (bytes "invalid file number in field spec: " ++ quotedText word)
      else if point != byte '.' then fail 1 (bytes "invalid field specifier: " ++ quotedText word)
      else return .own (digitOf file) (← fieldNumber field)
    | [] => fail 1 (bytes "invalid file number in field spec: " ++ quotedText word)

end Joining

open Joining in
/-- The lines of two files that agree in a field, put together. -/
def joinFiles : Utility := do
  modify fun effect ↦ { effect with isPrompt := true }
  let options ← options [taking '1' "", taking '2' "", taking 'a' "", flag 'i' "ignore-case", taking 'j' "",
    taking 'o' "", taking 't' "", taking 'v' "", taking 'e' "", flag 'z' "zero-terminated",
    long "check-order", long "nocheck-order", long "header"] 1 false
  let key := fun (letter : String) ↦ (do
    match options.last? [letter, "j"] with
    | some given => fieldNumber ((options.value? given).getD [])
    | none => return 0 : Work Nat)
  let keys := (← key "1", ← key "2")
  let numbers ← (options.values "a" ++ options.values "v").mapM fun value ↦ do
    if value = bytes "1" || value = bytes "2" then return value
    else fail 1 (bytes "invalid field number: " ++ quotedText value)
  let separator? ← match options.value? "t" with
    | some [b] => pure (some b)
    | some [] => pure none
    | some value =>
      if value = bytes "\\0" then pure (some 0) else fail 1 (bytes "multi-character tab " ++ quotedText value)
    | none => pure (some (byte ' '))
  let auto := options.values "o" == [bytes "auto"]
  let output ← if auto then pure [] else do pure (← (options.values "o").mapM outputFields).flatten
  match options.operands with
  | [] => misuse 1 (bytes "missing operand")
  | [only] => misuse 1 (bytes "missing operand after " ++ quotedText only)
  | [first, second] =>
    if first = bytes "-" && second = bytes "-" then fail 1 (bytes "both files cannot be standard input")
    let zero := options.has "z"
    let load := fun (path : Bytes) ↦ (do
      match ← readPath path with
      | .ok content => return recordsOf zero content
      | .error fault => fail 1 (aboutFile path fault) : Work (List Bytes))
    let firstLines ← load first
    let secondLines ← load second
    let manner : Manner := {
      separator?
      byBlanks := (options.value? "t").isNone
      keys
      ignoresCase := options.has "i"
      filler := (options.value? "e").getD []
      output
      checks := match options.last? ["check-order", "nocheck-order"] with
        | some "check-order" => some true
        | some _ => some false
        | none => none
      ender := if zero then 0 else lineEnd }
    let width := fun (lines : List Bytes) ↦
      (lines.head?.map fun line ↦ (recordOf manner line).fields.size).getD 0
    let fieldsOf := fun (file key count : Nat) ↦
      ((List.range count).filter (· != key)).map (OutputField.own file)
    let manner := if auto then
        { manner with output := .key ::
            (fieldsOf 1 keys.1 (width firstLines) ++ fieldsOf 2 keys.2 (width secondLines)) }
      else manner
    let hasHeader := options.has "header"
    if hasHeader && !(firstLines.isEmpty && secondLines.isEmpty) then
      put (joined manner (firstLines.head?.map (recordOf manner)) (secondLines.head?.map (recordOf manner)))
    let begun := fun (name : Bytes) (isFirst : Bool) (lines : List Bytes) ↦
      let rest := if hasHeader then lines.drop 1 else lines
      ({ name, isFirst, rest, count := lines.length - rest.length } : Source)
    let (left?, one) ← nextRecord manner false (begun first true firstLines)
    let (right?, two) ← nextRecord manner false (begun second false secondLines)
    let alone := (numbers.contains (bytes "1"), numbers.contains (bytes "2"))
    let fuel := firstLines.length + secondLines.length + 1
    let standing ← joinAll manner (options.values "v").isEmpty alone fuel ⟨one, two, left?, right?, false⟩
    let seenAlone := standing.seenAlone
    let one ← finish manner (seenAlone || standing.right?.isSome) alone.1
      (fun record ↦ joined manner (some record) none) fuel standing.first standing.left?
    let two ← finish manner (seenAlone || standing.left?.isSome) alone.2
      (fun record ↦ joined manner none (some record)) fuel standing.second standing.right?
    if one.isDisordered || two.isDisordered then fail 1 (bytes "input is not in sorted order")
  | _ :: _ :: extra :: _ => misuse 1 (bytes "extra operand " ++ quotedText extra)

end CodeRepair.Shell
