import CodeRepair.Shell.Utility.Scanning.Machine

/-!
# Carrying out scripts that scan lines

Expressions are evaluated from left to right, and statements are carried out one after the other.
Expressions and statements inside others are reached to a bounded depth; what goes deeper is taken to
have no end, and so are loops with very many turns.
-/

namespace CodeRepair.Shell.Scanning

open Course

/-- The turns of a loop that is taken to have no end. -/
def greatestTurns : Nat := 400000

/-- One turn of a loop; whether another one follows. -/
def turn (body : Course Unit) : Course Bool := do
  match ← attempt body with
  | .ok () | .error .again => return true
  | .error .leave => return false
  | .error flow => throw flow

/-- The turns of a loop whose condition holds. -/
def whileTrue (condition : Course Bool) (body after : Course Unit) : Nat → Course Unit
  | 0 => throw .endless
  | turns + 1 => do
    if ← condition then
      if ← turn body then
        after
        whileTrue condition body after turns

/-- The turns of a loop over keys. -/
def forEach (body : Bytes → Course Unit) : List Bytes → Course Unit
  | [] => return ()
  | key :: rest => do
    if ← turn (body key) then forEach body rest

/-- Where a value can be kept. -/
inductive Spot
  | field (n : Int)
  | variable (name : Bytes)
  | entry (id : Nat) (key : Bytes)

/-- The value at a spot. -/
def Spot.value : Spot → Course Value
  | field n => fieldOf n
  | .variable name => valueOf name
  | entry id key => entryOf id key

/-- A spot gets a value. -/
def Spot.set (spot : Spot) (value : Value) : Course Unit :=
  match spot with
  | field n => setField n value
  | .variable name => assign name value
  | entry id key => setEntry id key value

/-- The text in the place of a match: an ampersand stands for what matched. -/
def replacement (found : Bytes) : Bytes → Bytes
  | [] => []
  | a :: b :: rest =>
    if a = byte '&' then found ++ replacement found (b :: rest)
    else if a = byte '\\' && (b = byte '&' || b = byte '\\') then b :: replacement found rest
    else a :: replacement found (b :: rest)
  | [a] => if a = byte '&' then found else [a]

/-- A text with the matches of a pattern replaced, and their number. -/
def replaceMatches (regex : Regex) (insert : Bytes) (all : Bool) :
    Nat → Bool → Option UInt8 → Bytes → Bytes × Nat
  | 0, _, _, rest => (rest, 0)
  | fuel + 1, avoidsEmpty, before, rest =>
    match regex.findFrom (regex.modeFor false) before 0 rest with
    | none => (rest, 0)
    | some found =>
      let head := rest.take found.start
      let isRepeated := found.text.isEmpty && avoidsEmpty && found.start = 0
      let inserted := if isRepeated then [] else replacement found.text insert
      let count := if isRepeated then 0 else 1
      if !all && !isRepeated then (head ++ inserted ++ found.rest, 1)
      else if found.text.isEmpty then
        match found.rest with
        | [] => (head ++ inserted, count)
        | b :: after =>
          let (tail, more) := replaceMatches regex insert all fuel false (some b) after
          (head ++ inserted ++ b :: tail, count + more)
      else
        let (tail, more) := replaceMatches regex insert all fuel true found.before found.rest
        (head ++ inserted ++ tail, count + more)

/-- The part of a text that begins at a place and has a length, both of which are rounded. -/
def partOf (text : Bytes) (start : Float) (length : Option Float) : Bytes :=
  let rounded := fun (x : Float) ↦
    let whole := x.floor
    let rest := x - whole
    if rest < 0.5 then whole else if 0.5 < rest then whole + 1.0
    else if wholePart whole % 2 = 0 then whole else whole + 1.0
  let first := rounded start
  let last := match length with
    | some length => first + rounded length
    | none => Float.ofNat (text.length + 1)
  let first := if first < 1.0 then 1.0 else first
  let last := if Float.ofNat (text.length + 1) < last then Float.ofNat (text.length + 1) else last
  if first < last then
    (text.drop ((wholePart first).toNat - 1)).take ((wholePart last).toNat - (wholePart first).toNat)
  else []

/-- The first place of a text in another one, counted from one; zero if there is none. -/
def placeOf (part text : Bytes) : Nat :=
  ((List.range (text.length + 1 - part.length)).find? fun n ↦ part.isPrefixOf (text.drop n)).elim 0
    (· + 1)

/-- A function of one number. -/
def functionOf? (name : Bytes) : Option (Float → Float) :=
  ([("cos", Float.cos), ("exp", Float.exp), ("log", Float.log), ("sin", Float.sin), ("sqrt", Float.sqrt),
    ("int", fun x ↦ if x < 0.0 then x.ceil else x.floor)] : List (String × (Float → Float))).findSome?
    fun entry ↦ if bytes entry.1 == name then some entry.2 else none

/-- The pattern that a text stands for. -/
def patternIn (text : Bytes) : Course Regex := do
  match patternOf text with
  | .ok regex => return regex
  | .error fault =>
    blame (fault.text text)

/-- Whether a pattern is found in a text. -/
def fits (regex : Regex) (text : Bytes) : Bool :=
  (regex.find? false text).isSome

/-- The values under the control of the first one, and whether there are enough of them. -/
def formattedText (values : List Value) : Course (Bytes × Bool) := do
  match values with
  | [] => return ([], true)
  | format :: rest =>
    let format ← textOf format
    let textFormat ← textIn "CONVFMT"
    return formatted (Value.toText textFormat) (format.length + 1) format rest

/-- There are too few values for a format. -/
def blameShortage {α : Type} (name : String) (values : List Value) : Course α := do
  let format ← textOf (values.headD .unset)
  blame (bytes "not enough arguments passed to " ++ bytes name ++ bytes "(\"" ++ format ++ bytes "\")")

mutual

/-- The value of an expression. -/
def evaluate : Nat → Expression → Course Value
  | 0, _ => throw .endless
  | fuel + 1, expression => do
    match expression with
    | .number x => return .number x
    | .text value => return .text value
    | .pattern regex => return .ofBool (fits regex (← get).record)
    | .field _ | .variable _ | .element _ _ => (← spotOf fuel expression).value
    | .group inner => evaluate fuel inner
    | .assign target operation value =>
      let spot ← spotOf fuel target
      let value ← evaluate fuel value
      let value ← match operation with
        | none => pure value
        | some operation => do
          pure (.number (operation.apply (← spot.value).toNumber value.toNumber))
      spot.set value
      return value
    | .step target isUp yieldsOld =>
      let spot ← spotOf fuel target
      let old := (← spot.value).toNumber
      let new := if isUp then old + 1.0 else old - 1.0
      spot.set (.number new)
      return .number (if yieldsOld then old else new)
    | .choice condition first second =>
      if (← evaluate fuel condition).isTrue then evaluate fuel first else evaluate fuel second
    | .both first second =>
      if (← evaluate fuel first).isTrue then return .ofBool (← evaluate fuel second).isTrue
      else return .ofBool false
    | .either first second =>
      if (← evaluate fuel first).isTrue then return .ofBool true
      else return .ofBool (← evaluate fuel second).isTrue
    | .negated inner => return .ofBool !(← evaluate fuel inner).isTrue
    | .sign isNegative inner =>
      let x := (← evaluate fuel inner).toNumber
      return .number (if isNegative then -x else x)
    | .contains keys name =>
      let key ← keyOf fuel keys
      let id ← arrayOf name
      return .ofBool ((← entriesOf id).lookup key).isSome
    | .fits negated text pattern =>
      let text ← textOf (← evaluate fuel text)
      let regex ← regexOf fuel pattern
      return .ofBool (fits regex text != negated)
    | .compare comparison first second =>
      let first ← evaluate fuel first
      let second ← evaluate fuel second
      return .ofBool (comparison.holds (← textIn "CONVFMT") first second)
    | .arithmetic operation first second =>
      let x ← evaluate fuel first
      let y ← evaluate fuel second
      return .number (operation.apply x.toNumber y.toNumber)
    | .join first second =>
      let first ← textOf (← evaluate fuel first)
      let second ← textOf (← evaluate fuel second)
      return .text (first ++ second)
    | .call name arguments => callFunction fuel name arguments
    | .standard name arguments => callStandard fuel name arguments
    | .readRecord source target => readRecord fuel source target

/-- The spot that an expression names. -/
def spotOf : Nat → Expression → Course Spot
  | 0, _ => throw .endless
  | fuel + 1, expression => do
    match expression with
    | .field index => return .field (boundedWhole (← evaluate fuel index).toNumber)
    | .element name keys =>
      let key ← keyOf fuel keys
      return .entry (← arrayOf name) key
    | .variable name => return .variable name
    | .group inner => spotOf fuel inner
    | _ => throw (.fault (bytes "line 1: syntax error"))

/-- The key of an entry. -/
def keyOf : Nat → List Expression → Course Bytes
  | 0, _ => throw .endless
  | fuel + 1, keys => do
    let texts ← (← evaluateAll fuel keys).mapM textOf
    match texts with
    | [text] => return text
    | _ => return List.intercalate (← textIn "SUBSEP") texts

/-- The values of some expressions. -/
def evaluateAll : Nat → List Expression → Course (List Value)
  | 0, _ => throw .endless
  | _, [] => return []
  | fuel + 1, first :: rest => do
    let value ← evaluate fuel first
    return value :: (← evaluateAll fuel rest)

/-- The pattern that an expression stands for. -/
def regexOf : Nat → Expression → Course Regex
  | 0, _ => throw .endless
  | fuel + 1, expression => do
    match expression with
    | .pattern regex => return regex
    | other => patternIn (← textOf (← evaluate fuel other))

/-- A function of the script is called.  Arrays are passed as they are, and other arguments by their
values. -/
def callFunction : Nat → Bytes → List Expression → Course Value
  | 0, _, _ => throw .endless
  | fuel + 1, name, arguments => do
    let machine ← get
    match machine.program.function? name with
    | none => throw (.fault (bytes "line 1: function " ++ name ++ bytes " never defined"))
    | some function =>
      let arrays := (machine.arrayParameters.lookup name).getD []
      let frame ← bindParameters fuel arrays 0 function.parameters arguments
      let before := (← get).frame
      modify fun machine ↦ { machine with frame := some frame }
      let result ← attempt (carryOut fuel function.body)
      modify fun machine ↦ { machine with frame := before }
      match result with
      | .ok () => return .unset
      | .error (.giveBack value) => return value
      | .error flow => throw flow

/-- What the parameters of a function stand for. -/
def bindParameters : Nat → List Nat → Nat → List Bytes → List Expression → Course (List (Bytes × Slot))
  | 0, _, _, _, _ => throw .endless
  | _, _, _, [], _ => return []
  | fuel + 1, arrays, n, parameter :: parameters, arguments => do
    let slot ← match arguments with
      | [] => if arrays.contains n then pure (Slot.array (← newArray)) else pure (.value .unset)
      | argument :: _ =>
        match argument with
        | .variable name => do
          if arrays.contains n then pure (.array (← arrayOf name))
          else match ← slot? name with
            | some (.array id) => pure (.array id)
            | _ => pure (.value (← valueOf name))
        | _ => do
          let value ← evaluate fuel argument
          if arrays.contains n then pure (.array (← newArray)) else pure (.value value)
    return (parameter, slot) :: (← bindParameters fuel arrays (n + 1) parameters (arguments.drop 1))

/-- One of the functions that every script has. -/
def callStandard : Nat → Bytes → List Expression → Course Value
  | 0, _, _ => throw .endless
  | fuel + 1, name, arguments => do
    let textAt := fun (n : Nat) ↦ (do
      match arguments[n]? with
      | some argument => textOf (← evaluate fuel argument)
      | none => return (← get).record : Course Bytes)
    let numberAt := fun (n : Nat) ↦ (do
      match arguments[n]? with
      | some argument => return (← evaluate fuel argument).toNumber
      | none => return 0.0 : Course Float)
    match functionOf? name with
    | some f => return .number (f (← numberAt 0))
    | none =>
      match String.ofList (argument name) with
      | "length" =>
        match arguments with
        | [.variable name] =>
          match ← slot? name with
          | some (.array id) => return .ofNat (← entriesOf id).length
          | _ => return .ofNat (← textAt 0).length
        | _ => return .ofNat (← textAt 0).length
      | "atan2" =>
        let y ← numberAt 0
        return .number (y.atan2 (← numberAt 1))
      | "index" =>
        let text ← textAt 0
        let part ← textAt 1
        return .ofNat (placeOf part text)
      | "substr" =>
        let text ← textAt 0
        let start ← numberAt 1
        let length ← if arguments.length < 3 then pure none else do pure (some (← numberAt 2))
        return .text (partOf text start length)
      | "tolower" => return .text ((← textAt 0).map toSmall)
      | "toupper" => return .text ((← textAt 0).map toCapital)
      | "sprintf" =>
        let values ← evaluateAll fuel arguments
        let (text, isWhole) ← formattedText values
        if !isWhole then blameShortage "sprintf" values
        return .text text
      | "match" =>
        let text ← textAt 0
        let regex ← regexOf fuel (arguments.getD 1 (.text []))
        let (start, length) := match regex.find? false text with
          | some found => (Float.ofNat (found.start + 1), Float.ofNat found.text.length)
          | none => (0.0, -1.0)
        setGlobal "RSTART" (.number start)
        setGlobal "RLENGTH" (.number length)
        return .number start
      | "split" =>
        let text ← textAt 0
        match arguments.drop 1 with
        | .variable name :: _ =>
          let pieces ← match arguments.drop 2 with
            | .pattern regex :: _ => pure ((Separation.pattern regex).pieces text)
            | other :: _ => do split (← textOf (← evaluate fuel other)) text
            | [] => do split (← textIn "FS") text
          setEntries (← arrayOf name) (pieces.zipIdx.map fun (piece, n) ↦
            (ofNatural (n + 1), .taken piece))
          return .ofNat pieces.length
        | _ => throw (.fault (bytes "line 1: type error in arg(2) in call to split"))
      | "sub" => substitute fuel false arguments
      | "gsub" => substitute fuel true arguments
      | "close" => close (← textAt 0)
      | "fflush" =>
        flush
        return .number 0.0
      | "system" =>
        let command ← textAt 0
        let answer ← ask (.share command)
        return .ofNat (statusOf answer.ended)
      | "srand" =>
        let before := (← get).seed
        let seed ← match arguments with
          | [] => pure (.number 0.0)
          | argument :: _ => evaluate fuel argument
        modify fun machine ↦ { machine with seed }
        return before
      | _ => return .number 0.5

/-- Matches of a pattern are replaced, and counted. -/
def substitute : Nat → Bool → List Expression → Course Value
  | 0, _, _ => throw .endless
  | fuel + 1, all, arguments => do
    let regex ← regexOf fuel (arguments.getD 0 (.text []))
    let insert ← textOf (← evaluate fuel (arguments.getD 1 (.text [])))
    let target := arguments.getD 2 (.field (.number 0.0))
    let change := fun (text : Bytes) ↦ replaceMatches regex insert all (text.length + 2) false none text
    if target.isTarget then
      let spot ← spotOf fuel target
      let (text, count) := change (← textOf (← spot.value))
      if 0 < count then spot.set (.text text)
      return .ofNat count
    else
      let (_, count) := change (← textOf (← evaluate fuel target))
      return .ofNat count

/-- A record is read; whether there was one, or no source. -/
def readRecord : Nat → Option (SourceKind × Expression) → Option Expression → Course Value
  | 0, _, _ => throw .endless
  | fuel + 1, source, target => do
    let keep := fun (record : Bytes) ↦ (do
      match target with
      | some target => (← spotOf fuel target).set (.taken record)
      | none => setRecord record
      return .number 1.0 : Course Value)
    match source with
    | none =>
      match ← nextRecord (← fileBound) with
      | some record => keep record
      | none => return .number 0.0
    | some (kind, name) =>
      let name ← textOf (← evaluate fuel name)
      match ← recordFrom kind name with
      | none => return .number (-1.0)
      | some none => return .number 0.0
      | some (some record) =>
        keep record

/-- A statement is carried out. -/
def carryOut : Nat → Statement → Course Unit
  | 0, _ => throw .endless
  | fuel + 1, statement => do
    let putWhere := fun (outlet : Option (Outlet × Expression)) (content : Bytes) ↦ (do
      match outlet with
      | none => put content
      | some (outlet, name) => putTo outlet (← textOf (← evaluate fuel name)) content : Course Unit)
    match statement with
    | .block body => carryOutAll fuel body
    | .choice condition first second =>
      if (← evaluate fuel condition).isTrue then carryOut fuel first else carryOut fuel second
    | .loop condition body after =>
      whileTrue (do return (← evaluate fuel condition).isTrue) (carryOut fuel body) (carryOut fuel after)
        greatestTurns
    | .loopBehind body condition =>
      if ← turn (carryOut fuel body) then
        whileTrue (do return (← evaluate fuel condition).isTrue) (carryOut fuel body) (return ())
          greatestTurns
    | .forEach name array body =>
      let keys ← keysOf (← arrayOf array)
      forEach (fun key ↦ do
        assign name (.text key)
        carryOut fuel body) keys
    | .print values outlet =>
      let texts ← if values.isEmpty then do pure [(← get).record]
        else (← evaluateAll fuel values).mapM printedText
      putWhere outlet (List.intercalate (← textIn "OFS") texts ++ (← textIn "ORS"))
    | .printFormatted values outlet =>
      let values ← evaluateAll fuel values
      let (text, isWhole) ← formattedText values
      putWhere outlet text
      if !isWhole then blameShortage "printf" values
    | .next => throw .next
    | .exit status =>
      match status with
      | some status =>
        let status := boundedWhole (← evaluate fuel status).toNumber
        modify fun machine ↦ { machine with status := (status % 256).toNat }
      | none => pure ()
      throw .exit
    | .leave => throw .leave
    | .again => throw .again
    | .delete name keys =>
      let id ← arrayOf name
      if keys.isEmpty then setEntries id []
      else
        let key ← keyOf fuel keys
        setEntries id ((← entriesOf id).filter fun entry ↦ entry.1 != key)
    | .giveBack value =>
      match value with
      | some value => throw (.giveBack (← evaluate fuel value))
      | none => throw (.giveBack .unset)
    | .calculate value =>
      let _ ← evaluate fuel value
    | .nothing => return ()

/-- Statements are carried out one after the other. -/
def carryOutAll : Nat → List Statement → Course Unit
  | 0, _ => throw .endless
  | _, [] => return ()
  | fuel + 1, first :: rest => do
    carryOut fuel first
    carryOutAll fuel rest

end

/-- The depth to which expressions and statements are reached. -/
def depthBound : Nat := 20000

/-- The statements of a rule are carried out. -/
def Rule.carryOut (rule : Rule) : Course Unit := do
  match rule.body with
  | some body => Scanning.carryOut depthBound body
  | none => Scanning.carryOut depthBound (.print [] none)

/-- The rules that hold for the record are followed. -/
def followRules (rules : List (Rule × Nat)) : Course Unit :=
  rules.forM fun (rule, n) ↦ do
    let holds := fun (condition : Expression) ↦ (do
      return (← evaluate depthBound condition).isTrue : Course Bool)
    match rule.moment with
    | .always => rule.carryOut
    | .when condition => if ← holds condition then rule.carryOut
    | .between first last =>
      let hasBegun := (← get).begun.contains n
      if hasBegun || (← holds first) then
        let ends ← holds last
        modify fun machine ↦ { machine with
          begun := if ends then machine.begun.filter (· != n)
            else if hasBegun then machine.begun else n :: machine.begun }
        rule.carryOut
    | _ => return ()

/-- All that a script does. -/
def course : Course Unit := do
  let program := (← get).program
  let rules := program.rules.zipIdx
  let isStart := fun (rule : Rule) ↦ match rule.moment with
    | .start => true
    | _ => false
  let isFinish := fun (rule : Rule) ↦ match rule.moment with
    | .finish => true
    | _ => false
  let reads := program.rules.any fun rule ↦ !isStart rule
  let main : Course Unit := do
    for (rule, _) in rules do
      if isStart rule then rule.carryOut
    if reads then
      whileTrue (do
          match ← nextRecord (← fileBound) with
          | some record =>
            setRecord record
            return true
          | none => return false)
        (do
          match ← attempt (followRules rules) with
          | .ok () | .error .next => return ()
          | .error flow => throw flow)
        (return ()) 100000000
  match ← attempt main with
  | .ok () | .error .exit => pure ()
  | .error flow => throw flow
  let finish : Course Unit := do
    for (rule, _) in rules do
      if isFinish rule then rule.carryOut
  match ← attempt finish with
  | .ok () | .error .exit => pure ()
  | .error flow => throw flow

end CodeRepair.Shell.Scanning
