import CodeRepair.Shell.Utility.Plan
import CodeRepair.Shell.Utility.Scanning.Value

/-!
# The state of scripts that scan lines

A script works on the current record and its fields, on variables and arrays, and on what it reads and
writes.  Commands that it runs answer it: when an answer is needed that is not known yet, the script
breaks off, and it is carried out again from its beginning when the answer is there.
-/

namespace CodeRepair.Shell.Scanning

/-- A command that a script runs. -/
inductive Request
  /-- It shares the input and the output of the script. -/
  | share (command : Bytes)
  /-- The script reads its output. -/
  | read (command : Bytes)
  /-- It reads what the script has written. -/
  | feed (command input : Bytes)

/-- What has come of a command. -/
structure Answer where
  ended : Ended
  output : Bytes
  files : FileSystem

/-- What a script does to the world. -/
inductive Deed
  | write (isError : Bool) (content : Bytes)
  | change (f : FileSystem → FileSystem)

/-- What a name stands for: a value or the number of an array. -/
inductive Slot
  | value (v : Value)
  | array (id : Nat)

/-- Output on its way to a file or a command. -/
structure Writer where
  name : Bytes
  isCommand : Bool
  /-- What is not there yet, the last part first. -/
  parts : List Bytes

/-- The state of a script. -/
structure Machine where
  program : Program
  /-- Which parameters of functions are arrays. -/
  arrayParameters : List (Bytes × List Nat)
  /-- What the script was called. -/
  name : Bytes
  globals : List (Bytes × Slot) := []
  /-- The names of the function that is being called, if one is. -/
  frame : Option (List (Bytes × Slot)) := none
  /-- The arrays, in each of them the entries that were used last first. -/
  arrays : List (Nat × List (Bytes × Value)) := []
  record : Bytes := []
  fields : List Value := []
  /-- What is left of the file that is being read. -/
  content : Option Bytes := none
  /-- The number of the next operand. -/
  operand : Nat := 1
  hasRead : Bool := false
  /-- What is left of the input of the script. -/
  input : Except FileFault Bytes
  readers : List (Bytes × Bytes) := []
  /-- How the commands ended whose output is read. -/
  endings : List (Bytes × Ended) := []
  writers : List Writer := []
  /-- Output that is not written yet, the last part first. -/
  output : List Bytes := []
  /-- What was done, the last deed first. -/
  deeds : List Deed := []
  files : FileSystem
  answers : List Answer := []
  /-- The rules that hold from one record up to another, and have begun. -/
  begun : List Nat := []
  seed : Value := .number 0.0
  status : Nat := 0

/-- Why the course of a script is left. -/
inductive Flow
  | next
  | exit
  | leave
  | again
  | giveBack (value : Value)
  | asks (request : Request)
  | endless
  | fault (message : Bytes)

/-- A part of the course of a script. -/
abbrev Course := ExceptT Flow (StateM Machine)

namespace Course

/-- A part of a course that may be left. -/
def attempt {α : Type} (course : Course α) : Course (Except Flow α) :=
  fun machine ↦
    let (result, machine) := course.run machine
    (.ok result, machine)

/-- Something is done to the world. -/
def act (deed : Deed) : Course Unit :=
  modify fun machine ↦ { machine with deeds := deed :: machine.deeds }

/-- The files are changed, here and in the world. -/
def change (f : FileSystem → Except FileFault FileSystem) : Course (Option FileFault) := do
  match f (← get).files with
  | .error fault => return some fault
  | .ok files =>
    modify fun machine ↦ { machine with files }
    act (.change fun files ↦ (f files).toOption.getD files)
    return none

/-! ## Variables -/

/-- The slot of a name. -/
def slot? (name : Bytes) : Course (Option Slot) := do
  let machine ← get
  match machine.frame.bind fun frame ↦ frame.lookup name with
  | some slot => return some slot
  | none => return machine.globals.lookup name

/-- Entries with one more, or with another one in its place. -/
def putSlot (name : Bytes) (slot : Slot) : List (Bytes × Slot) → List (Bytes × Slot)
  | [] => [(name, slot)]
  | entry :: rest => if entry.1 == name then (name, slot) :: rest else entry :: putSlot name slot rest

/-- A name stands for something else from now on. -/
def setSlot (name : Bytes) (slot : Slot) : Course Unit :=
  modify fun machine ↦
    match machine.frame with
    | some frame =>
      if (frame.lookup name).isSome then { machine with frame := some (putSlot name slot frame) }
      else { machine with globals := putSlot name slot machine.globals }
    | none => { machine with globals := putSlot name slot machine.globals }

/-- The value of a variable. -/
def valueOf (name : Bytes) : Course Value := do
  match ← slot? name with
  | some (.value value) => return value
  | some (.array _) => throw (.fault (bytes "line 1: illegal reference to array " ++ name))
  | none => return .unset

/-- A value kept under a name outside of functions. -/
def setGlobal (name : String) (value : Value) : Course Unit :=
  modify fun machine ↦ { machine with globals := putSlot (bytes name) (.value value) machine.globals }

/-- A value kept under a name outside of functions. -/
def globalOf (name : String) : Course Value := do
  match (← get).globals.lookup (bytes name) with
  | some (.value value) => return value
  | _ => return .unset

/-- The text of a value. -/
def textOf (value : Value) : Course Bytes := do
  match value with
  | .number x => return numberText ((← globalOf "CONVFMT").toText []) x
  | other => return other.toText []

/-- The text of a value that is printed. -/
def printedText (value : Value) : Course Bytes := do
  match value with
  | .number x => return numberText ((← globalOf "OFMT").toText []) x
  | other => return other.toText []

/-- The text of a variable outside of functions. -/
def textIn (name : String) : Course Bytes := do
  textOf (← globalOf name)

/-- A mistake that shows only when the script is carried out. -/
def blame {α : Type} (message : Bytes) : Course α := do
  throw (.fault (bytes "run time error: " ++ message ++ bytes "\n\tFILENAME=\"" ++ (← textIn "FILENAME") ++
    bytes "\" FNR=" ++ (← textIn "FNR") ++ bytes " NR=" ++ (← textIn "NR")))

/-! ## Arrays -/

/-- A new array. -/
def newArray : Course Nat := do
  let machine ← get
  let id := machine.arrays.length
  set { machine with arrays := (id, []) :: machine.arrays }
  return id

/-- The array of a name. -/
def arrayOf (name : Bytes) : Course Nat := do
  match ← slot? name with
  | some (.array id) => return id
  | _ =>
    let id ← newArray
    setSlot name (.array id)
    return id

/-- The entries of an array. -/
def entriesOf (id : Nat) : Course (List (Bytes × Value)) := do
  return ((← get).arrays.lookup id).getD []

/-- An array gets other entries. -/
def setEntries (id : Nat) (entries : List (Bytes × Value)) : Course Unit :=
  modify fun machine ↦ { machine with
    arrays := machine.arrays.map fun entry ↦ if entry.1 = id then (id, entries) else entry }

/-- An entry of an array is set. -/
def setEntry (id : Nat) (key : Bytes) (value : Value) : Course Unit := do
  let entries ← entriesOf id
  setEntries id ((key, value) :: entries.filter fun entry ↦ entry.1 != key)

/-- The value of an entry, which is there from then on. -/
def entryOf (id : Nat) (key : Bytes) : Course Value := do
  let entries ← entriesOf id
  match entries with
  | first :: _ => if first.1 == key then return first.2
  | [] => pure ()
  let value := (entries.lookup key).getD .unset
  setEntries id ((key, value) :: entries.filter fun entry ↦ entry.1 != key)
  return value

/-- The place of a key in the order in which the entries of an array are visited. -/
def bucketOf (size : Nat) (key : Bytes) : Nat :=
  (key.foldl (fun (h : UInt32) b ↦ (h ^^^ b.toUInt32) * 16777619) 2166136261).toNat % size

/-- The keys of an array in the order in which they are visited. -/
def keysOf (id : Nat) : Course (List Bytes) := do
  let keys := (← entriesOf id).map Prod.fst
  return (keys.map fun key ↦ (bucketOf 64 key, key)).mergeSort (fun a b ↦ a.1 ≤ b.1) |>.map Prod.snd

end Course

/-! ## Records and fields -/

/-- A text cut where a pattern matches something that is not empty. -/
def cutByPattern (regex : Regex) : Nat → Bytes → Option UInt8 → Bytes → List Bytes
  | 0, piece, _, rest => [piece ++ rest]
  | fuel + 1, piece, before, rest =>
    match regex.findFrom (regex.modeFor false) before 0 rest with
    | none => [piece ++ rest]
    | some found =>
      if found.text.isEmpty then
        match found.rest with
        | [] => [piece ++ rest]
        | b :: after =>
          cutByPattern regex fuel (piece ++ rest.take (found.start + 1)) (some b) after
      else (piece ++ rest.take found.start) :: cutByPattern regex fuel [] found.before found.rest

/-- The words of a text. -/
def wordsOf (text : Bytes) : List Bytes :=
  let isBlank := fun (b : UInt8) ↦ b == 0x20 || b == 0x09 || b == lineEnd
  (text.splitBy fun a b ↦ isBlank a == isBlank b).filter fun piece ↦
    piece.head?.any fun b ↦ !isBlank b

/-- What separates fields. -/
inductive Separation
  | words
  | letters
  | byte (b : UInt8)
  | pattern (regex : Regex)

/-- The separation that a text names. -/
def separationOf (text : Bytes) : Except PatternFault Separation :=
  match text with
  | [] => .ok .letters
  | [b] => .ok (if b = Shell.byte ' ' then .words else .byte b)
  | _ => (patternOf text).map .pattern

/-- The pieces of a text. -/
def Separation.pieces (separation : Separation) (text : Bytes) : List Bytes :=
  if text.isEmpty then []
  else match separation with
    | .words => wordsOf text
    | .letters => text.map fun b ↦ [b]
    | .byte b => cutAt b text
    | .pattern regex => cutByPattern regex (text.length + 1) [] none text

/-- The first record of a content, and what stands behind it. -/
def takeRecord (separator : Bytes) (content : Bytes) : Option (Bytes × Bytes) :=
  match separator with
  | [] =>
    let content := content.dropWhile (· == lineEnd)
    let rec paragraph : Nat → Bytes → Bytes → Bytes × Bytes
      | 0, before, rest => (before.reverse, rest)
      | _, before, [] => (before.reverse, [])
      | fuel + 1, before, b :: rest =>
        if b = lineEnd && rest.head? = some lineEnd then (before.reverse, rest.dropWhile (· == lineEnd))
        else paragraph fuel (b :: before) rest
    if content.isEmpty then none
    else
      let (record, rest) := paragraph (content.length + 1) [] content
      some (chomp record, rest)
  | [b] =>
    if content.isEmpty then none
    else
      let record := content.takeWhile (· != b)
      some (record, content.drop (record.length + 1))
  | _ =>
    if content.isEmpty then none
    else match patternOf separator with
      | .error _ => some (content, [])
      | .ok regex =>
        match regex.findFrom (regex.modeFor false) none 0 content with
        | some found =>
          if found.text.isEmpty then some (content, []) else some (content.take found.start, found.rest)
        | none => some (content, [])

namespace Course

/-- The pieces of a text that are meant by a separator. -/
def split (separator text : Bytes) : Course (List Bytes) := do
  match separationOf separator with
  | .ok separation => return separation.pieces text
  | .error fault =>
    blame (fault.text separator)

/-- The record is another one. -/
def setRecord (record : Bytes) : Course Unit := do
  let separator ← textIn "FS"
  let separator := if (← textIn "RS").isEmpty then
      (if separator = bytes " " then separator
      else bytes "(" ++ (if separator.length = 1 then bytes "[" ++ separator ++ bytes "]" else separator) ++
        bytes ")|\n")
    else separator
  let pieces ← split separator record
  modify fun machine ↦ { machine with record, fields := pieces.map .taken }
  setGlobal "NF" (.ofNat pieces.length)

/-- The record is put together from its fields. -/
def joinRecord : Course Unit := do
  let separator ← textIn "OFS"
  let texts ← (← get).fields.mapM textOf
  modify fun machine ↦ { machine with record := List.intercalate separator texts }

/-- The number of fields is another one. -/
def setFieldCount (value : Value) : Course Unit := do
  let n := boundedWhole value.toNumber
  if n < 0 then blame (bytes "negative value assigned to NF")
  modify fun machine ↦ { machine with
    fields := machine.fields.take n.toNat ++
      List.replicate (n.toNat - machine.fields.length) (.taken []) }
  setGlobal "NF" value
  joinRecord

/-- The value of a field. -/
def fieldOf (n : Int) : Course Value := do
  if n < 0 then blame (bytes "negative field index $" ++ ofInteger n)
  let machine ← get
  if n = 0 then return .taken machine.record
  else return (machine.fields[n.toNat - 1]?).getD .unset

/-- A field gets a value. -/
def setField (n : Int) (value : Value) : Course Unit := do
  if n < 0 then blame (bytes "negative field index $" ++ ofInteger n)
  if n = 0 then setRecord (← textOf value)
  else
    let fields := (← get).fields
    let fields := fields ++ List.replicate (n.toNat - fields.length) (.taken [])
    modify fun machine ↦ { machine with fields := fields.set (n.toNat - 1) value }
    setGlobal "NF" (.ofNat fields.length)
    joinRecord

/-- A variable gets a value. -/
def assign (name : Bytes) (value : Value) : Course Unit := do
  match ← slot? name with
  | some (.array _) => throw (.fault (bytes "line 1: illegal reference to array " ++ name))
  | _ =>
    if name = bytes "NF" && ((← get).frame.bind fun frame ↦ frame.lookup name).isNone then
      setFieldCount value
    else setSlot name (.value value)

/-! ## Output -/

/-- Output of the script. -/
def put (content : Bytes) : Course Unit :=
  modify fun machine ↦ { machine with output := content :: machine.output }

/-- What was written to files gets there. -/
def settleFile (writer : Writer) : Course Unit := do
  let content := writer.parts.reverse.flatten
  let path := argument writer.name
  if !writer.isCommand && !content.isEmpty then
    let _ ← change fun files ↦ do files.write path ((← files.read path) ++ content)

/-- All output gets where it belongs, but for that to commands. -/
def flush : Course Unit := do
  let machine ← get
  let content := machine.output.reverse.flatten
  if !content.isEmpty then act (.write false content)
  for writer in machine.writers do settleFile writer
  modify fun machine ↦ { machine with
    output := []
    writers := machine.writers.map fun writer ↦
      if writer.isCommand then writer else { writer with parts := [] } }

/-- A command is run. -/
def ask (request : Request) : Course Answer := do
  flush
  match (← get).answers with
  | [] => throw (.asks request)
  | answer :: rest =>
    modify fun machine ↦ { machine with answers := rest, files := answer.files }
    return answer

/-- Something is written to an outlet. -/
def putTo (outlet : Outlet) (name content : Bytes) : Course Unit := do
  let isCommand := outlet = .command
  if !isCommand && (name = bytes "/dev/stdout" || name = bytes "-") then put content
  else if !isCommand && name = bytes "/dev/stderr" then act (.write true content)
  else
    let isOpen := (← get).writers.any fun writer ↦ writer.name == name
    if !isOpen then
      if isCommand then flush
      else
        let path := argument name
        let fault ← change fun files ↦
          match outlet, files.read path with
          | .append, .ok _ => .ok files
          | _, _ => files.write path []
        match fault with
        | some fault =>
          throw (.fault (bytes "cannot open \"" ++ name ++ bytes "\" for output (" ++ reasonOf fault ++
            bytes ")"))
        | none => pure ()
      modify fun machine ↦ { machine with writers := machine.writers ++ [⟨name, isCommand, []⟩] }
    modify fun machine ↦ { machine with
      writers := machine.writers.map fun writer ↦
        if writer.name == name then { writer with parts := content :: writer.parts } else writer }

/-- The number that tells how a command ended. -/
def statusOf : Ended → Nat
  | .stopped signal => 256 + signal
  | ended => ended.status

/-- An outlet is closed. -/
def closeWriter (writer : Writer) : Course Nat := do
  modify fun machine ↦ { machine with
    writers := machine.writers.filter fun other ↦ other.name != writer.name }
  if writer.isCommand then
    let answer ← ask (.feed writer.name writer.parts.reverse.flatten)
    return statusOf answer.ended
  else
    settleFile writer
    return 0

/-- An outlet or a source is closed; the number that tells how a command ended. -/
def close (name : Bytes) : Course Value := do
  let machine ← get
  match machine.writers.find? fun writer ↦ writer.name == name with
  | some writer => return .ofNat (← closeWriter writer)
  | none =>
    if (machine.readers.lookup name).isNone then return .number (-1.0)
    set { machine with
      readers := machine.readers.filter fun entry ↦ entry.1 != name
      endings := machine.endings.filter fun entry ↦ entry.1 != name }
    return .ofNat (((machine.endings.lookup name).map statusOf).getD 0)

/-! ## Input -/

/-- All that is left of the input of the script. -/
def takeInput : Course (Except FileFault Bytes) := do
  let machine ← get
  set { machine with input := .ok [] }
  return machine.input

/-- The name and the value in an operand that sets a variable. -/
def setting? (operand : Bytes) : Option (Bytes × Bytes) :=
  let name := operand.takeWhile fun b ↦ isWordByte b || b == byte '_'
  let rest := operand.drop name.length
  if rest.head? = some (byte '=') && name.head?.any fun b ↦ !isDecimal b then some (name, rest.drop 1)
  else none

/-- The next file is opened, if there is one. -/
def openNext : Nat → Course Bool
  | 0 => return false
  | fuel + 1 => do
    let machine ← get
    let count := boundedWhole (← globalOf "ARGC").toNumber
    if machine.operand < count then
      set { machine with operand := machine.operand + 1 }
      let entries ← entriesOf (← arrayOf (bytes "ARGV"))
      match entries.lookup (ofNatural machine.operand) with
      | none => openNext fuel
      | some value =>
        let operand ← textOf value
        match setting? operand with
        | some (name, value) =>
          assign name (.taken (unescaped value.length value))
          openNext fuel
        | none =>
          if operand.isEmpty then openNext fuel
          else if operand = bytes "-" || operand = bytes "/dev/stdin" then openInput operand
          else
            match machine.files.read (argument operand) with
            | .ok content => start operand content
            | .error fault =>
              throw (.fault (bytes "cannot open \"" ++ operand ++ bytes "\" (" ++ reasonOf fault ++
                bytes ")"))
    else if machine.hasRead then return false
    else openInput (bytes "-")
where
  start (name content : Bytes) : Course Bool := do
    modify fun machine ↦ { machine with content := some content, hasRead := true }
    setGlobal "FILENAME" (.text name)
    setGlobal "FNR" (.number 0.0)
    return true
  openInput (name : Bytes) : Course Bool := do
    match ← takeInput with
    | .ok content => start name content
    | .error _ => start name []

/-- The next record of the input. -/
def nextRecord : Nat → Course (Option Bytes)
  | 0 => return none
  | fuel + 1 => do
    match (← get).content with
    | none => if ← openNext (fuel + 1) then nextRecord fuel else return none
    | some content =>
      match takeRecord (← textIn "RS") content with
      | some (record, rest) =>
        modify fun machine ↦ { machine with content := some rest }
        setGlobal "NR" (.number ((← globalOf "NR").toNumber + 1.0))
        setGlobal "FNR" (.number ((← globalOf "FNR").toNumber + 1.0))
        return some record
      | none =>
        modify fun machine ↦ { machine with content := none }
        nextRecord fuel

/-- A bound for the number of files that are opened for a record. -/
def fileBound : Course Nat := do
  return 2 * (boundedWhole (← globalOf "ARGC").toNumber).toNat + 4

/-- The next record of a file or of the output of a command; `none` if it cannot be opened. -/
def recordFrom (kind : SourceKind) (name : Bytes) : Course (Option (Option Bytes)) := do
  let machine ← get
  let opened : Except FileFault Bytes ← match machine.readers.lookup name with
    | some content => pure (.ok content)
    | none =>
      match kind with
      | .file =>
        if name = bytes "-" || name = bytes "/dev/stdin" then takeInput
        else pure (machine.files.read (argument name))
      | .command => do
        let answer ← ask (.read name)
        modify fun machine ↦ { machine with endings := (name, answer.ended) :: machine.endings }
        pure (.ok answer.output)
  match opened with
  | .error _ => return none
  | .ok content =>
    let keep := fun (rest : Bytes) ↦ (modify fun machine ↦ { machine with
      readers := (name, rest) :: machine.readers.filter fun entry ↦ entry.1 != name } : Course Unit)
    match takeRecord (← textIn "RS") content with
    | some (record, rest) =>
      keep rest
      return some (some record)
    | none =>
      keep []
      return some none

end Course

end CodeRepair.Shell.Scanning
