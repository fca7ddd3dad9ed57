import CodeRepair.Shell.Utility.Scanning.Evaluation

/-!
# Scanning lines

`awk` carries out a script for each record of its input.
-/

namespace CodeRepair.Shell

open Work Scanning

/-- What the arguments of `awk` say besides the operands. -/
structure ScannerOptions where
  /-- The files that the script is in. -/
  scripts : List Bytes := []
  separator : Option Bytes := none
  settings : List Bytes := []
  operands : List Bytes := []

/-- The options among arguments. -/
def ScannerOptions.read : Nat → List Bytes → ScannerOptions → Except Bytes ScannerOptions
  | 0, _, options => .ok options
  | _, [], options => .ok options
  | fuel + 1, first :: rest, options =>
    if first = bytes "--" then .ok { options with operands := rest }
    else if first.head? != some (byte '-') || first.length = 1 then
      .ok { options with operands := first :: rest }
    else
      let letter := first.getD 1 0
      let (value?, rest) := if 2 < first.length then (some (first.drop 2), rest)
        else (rest.head?, rest.drop 1)
      match value? with
      | none =>
        if (bytes "fFv").contains letter then
          .error (bytes "option " ++ first ++ bytes " lacks argument")
        else .error (bytes "not an option: " ++ first)
      | some value =>
        if letter = byte 'f' then read fuel rest { options with scripts := options.scripts ++ [value] }
        else if letter = byte 'F' then read fuel rest { options with separator := some value }
        else if letter = byte 'v' then read fuel rest { options with settings := options.settings ++ [value] }
        else .error (bytes "not an option: " ++ first)

/-- The state in which a script begins. -/
def scannerStart (call : Call) (program : Program) (options : ScannerOptions) (files : FileSystem)
    (input : Except FileFault Bytes) : Except Bytes Machine := do
  let words := call.name :: options.operands
  let operands := words.zipIdx.map fun (word, n) ↦ (ofNatural n, Value.taken word)
  let environment := call.environment.map fun entry ↦ (Text.encode entry.1, Value.taken entry.2)
  let text := fun (name value : String) ↦ (bytes name, Slot.value (.text (bytes value)))
  let settings ← options.settings.mapM fun setting ↦
    match Course.setting? setting with
    | some (name, value) => .ok (name, Slot.value (.taken (unescaped value.length value)))
    | none => .error (bytes "improper assignment: -v " ++ setting)
  let separator := options.separator.toList.map fun value ↦
    (bytes "FS", Slot.value (.text (unescaped value.length value)))
  let count := fun (name : String) ↦ (bytes name, Slot.value (.number 0.0))
  let defaults := [text "FS" " ", text "OFS" " ", text "ORS" "\n", text "RS" "\n", text "SUBSEP" "\x1c",
    text "CONVFMT" "%.6g", text "OFMT" "%.6g", text "FILENAME" "", count "NR", count "FNR", count "NF",
    count "RSTART", (bytes "RLENGTH", .value (.number (-1.0))),
    (bytes "ARGC", .value (.ofNat words.length)), (bytes "ARGV", .array 0), (bytes "ENVIRON", .array 1)]
  let globals := (separator ++ settings).foldl (fun globals setting ↦
    Course.putSlot setting.1 setting.2 globals) defaults
  return { program, arrayParameters := program.arrayParameters 4, name := call.name, globals,
           arrays := [(1, environment), (0, operands)], input, files }

/-- What a script does before it ends or needs an answer. -/
def scannerCourse (machine : Machine) (answers : List Answer) :
    Option Scanning.Flow × Machine :=
  let rest : Course Unit := do
    let result ← Course.attempt course
    match result with
    | .error (.asks request) => throw (.asks request)
    | _ => pure ()
    for writer in (← get).writers do
      let _ ← Course.closeWriter writer
    Course.flush
    match result with
    | .error flow => throw flow
    | .ok () => pure ()
  match rest.run { machine with answers } with
  | (.ok (), machine) => (none, machine)
  | (.error flow, machine) => (some flow, machine)

/-- A plan that begins with some deeds. -/
def Plan.behind (deeds : List Deed) (plan : Plan) : Plan :=
  deeds.foldr (fun deed plan ↦
    match deed with
    | .write isError content => .write isError content plan
    | .change f => .change f plan) plan

/-- What is to be done for a script that has got some answers, and has done so many deeds already. -/
def scannerPlan (name : Bytes) (machine : Machine) : Nat → List Answer → Nat → Plan
  | 0, _, _ => .finish 2
  | fuel + 1, answers, done =>
    let (flow, after) := scannerCourse machine answers
    let deeds := after.deeds.reverse
    let consult := fun (command : Bytes) (input : Option Bytes) (isHeard : Bool) ↦
      Plan.consult { words := [bytes "/bin/sh", bytes "-c", command], input, isHeard }
        fun ended output files ↦
          scannerPlan name machine fuel (answers ++ [⟨ended, output, files⟩]) deeds.length
    Plan.behind (deeds.drop done) (match flow with
      | none => .finish after.status
      | some (.asks (.share command)) => consult command none false
      | some (.asks (.read command)) => consult command none true
      | some (.asks (.feed command input)) => consult command (some input) false
      | some .endless => .pause 1000000000 (.finish 2)
      | some (.fault message) => .write true (name ++ bytes ": " ++ message ++ [lineEnd]) (.finish 2)
      | some _ => .finish after.status)

/-- Whether a script reads the input of the program. -/
def readsInput (program : Program) (script : Bytes) (operands : List Bytes) : Bool :=
  let mentions := fun (part : String) ↦ placeOf (bytes part) script != 0
  let files := operands.filter fun operand ↦ (Course.setting? operand).isNone && !operand.isEmpty
  let reads := mentions "getline" || program.rules.any fun rule ↦
    match rule.moment with
    | .start => false
    | _ => true
  reads && (files.isEmpty || mentions "\"-\"" || mentions "/dev/stdin" ||
    files.any fun file ↦ file = bytes "-" || file = bytes "/dev/stdin")

/-- Records scanned by a script. -/
def awk : Work Plan := do
  let call ← read
  let options ← match ScannerOptions.read (call.arguments.length + 1) call.arguments {} with
    | .ok options => pure options
    | .error message => fail 2 message
  let (scripts, operands) ← match options.scripts, options.operands with
    | [], [] =>
      putError (bytes "Usage: mawk [Options] [Program] [file ...]\n")
      quit 0
    | [], script :: operands => pure ([script], operands)
    | paths, operands => do
      let scripts ← paths.mapM fun path ↦ do
        match ← readPath path with
        | .ok content => return content
        | .error fault => fail 2 (bytes "cannot open \"" ++ path ++ bytes "\" (" ++ reasonOf fault ++
            bytes ")")
      pure (scripts, operands)
  let script := List.intercalate [lineEnd] scripts
  let program ← match Program.read script with
    | .ok program => pure program
    | .error fault =>
      let source := match options.scripts.getLast? with
        | some path => path ++ bytes ": "
        | none => []
      for (line, message) in fault do
        warn (source ++ (if line = 0 then [] else bytes "line " ++ ofNatural line ++ bytes ": ") ++ message)
      quit 2
  let input ← if readsInput program script operands then readInput else pure (.ok [])
  match scannerStart call program { options with operands } (← get).files input with
  | .error message => fail 2 message
  | .ok machine => return scannerPlan call.name machine 10000 [] 0

end CodeRepair.Shell
