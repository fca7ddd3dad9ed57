import CodeRepair.Shell.Regex

/-!
# Scripts that scan lines

A script of `awk` is a list of rules, each of which says for which records of the input something is
done, and of functions.
-/

namespace CodeRepair.Shell.Scanning

/-- An operation on numbers. -/
inductive Operation
  | add
  | subtract
  | multiply
  | divide
  | remainder
  | power
  deriving DecidableEq, Repr

/-- A comparison. -/
inductive Comparison
  | less
  | atMost
  | equal
  | different
  | greater
  | atLeast
  deriving DecidableEq, Repr

/-- What can be read from besides the input. -/
inductive SourceKind
  | file
  | command
  deriving DecidableEq, Repr

/-- An expression. -/
inductive Expression
  | number (value : Float)
  | text (value : Bytes)
  /-- Whether the record matches. -/
  | pattern (regex : Regex)
  | field (index : Expression)
  | variable (name : Bytes)
  | element (name : Bytes) (keys : List Expression)
  /-- Brackets around an expression. -/
  | group (inner : Expression)
  | assign (target : Expression) (operation : Option Operation) (value : Expression)
  /-- A step up or down; the value may be that from before the step. -/
  | step (target : Expression) (isUp yieldsOld : Bool)
  | choice (condition first second : Expression)
  | both (first second : Expression)
  | either (first second : Expression)
  | negated (inner : Expression)
  | sign (isNegative : Bool) (inner : Expression)
  | contains (keys : List Expression) (name : Bytes)
  | fits (negated : Bool) (text pattern : Expression)
  | compare (comparison : Comparison) (first second : Expression)
  | arithmetic (operation : Operation) (first second : Expression)
  | join (first second : Expression)
  | call (name : Bytes) (arguments : List Expression)
  /-- One of the functions that every script has. -/
  | standard (name : Bytes) (arguments : List Expression)
  /-- The next record of the input or of a source. -/
  | readRecord (source : Option (SourceKind × Expression)) (target : Option Expression)

/-- Where output may go besides the output of the script. -/
inductive Outlet
  | file
  | append
  | command
  deriving DecidableEq, Repr

/-- A statement. -/
inductive Statement
  | block (body : List Statement)
  | choice (condition : Expression) (first second : Statement)
  | loop (condition : Expression) (body after : Statement)
  | loopBehind (body : Statement) (condition : Expression)
  | forEach (name array : Bytes) (body : Statement)
  | print (values : List Expression) (outlet : Option (Outlet × Expression))
  | printFormatted (values : List Expression) (outlet : Option (Outlet × Expression))
  | next
  | exit (status : Option Expression)
  | leave
  | again
  | delete (name : Bytes) (keys : List Expression)
  | giveBack (value : Option Expression)
  | calculate (value : Expression)
  | nothing

/-- When the statements of a rule are carried out. -/
inductive Moment
  | start
  | finish
  | always
  | when (condition : Expression)
  /-- From one record on up to another. -/
  | between (first last : Expression)

/-- A rule; without statements the record is printed. -/
structure Rule where
  moment : Moment
  body : Option Statement

/-- A function. -/
structure Function where
  name : Bytes
  parameters : List Bytes
  body : Statement

/-- A script. -/
structure Program where
  rules : List Rule := []
  functions : List Function := []

/-! ## Arrays among parameters -/

mutual

/-- The names that an expression uses as arrays, given which parameters of functions are arrays. -/
def Expression.arrays (isArray : Bytes → Nat → Bool) : Expression → List Bytes
  | .number _ | .text _ | .pattern _ | .variable _ => []
  | .field inner | .group inner | .negated inner | .sign _ inner => inner.arrays isArray
  | .element name keys | .contains keys name => name :: arraysOfAll isArray keys
  | .assign target _ value => target.arrays isArray ++ value.arrays isArray
  | .step target _ _ => target.arrays isArray
  | .choice a b c => a.arrays isArray ++ b.arrays isArray ++ c.arrays isArray
  | .both a b | .either a b | .fits _ a b | .compare _ a b | .arithmetic _ a b | .join a b =>
    a.arrays isArray ++ b.arrays isArray
  | .call name arguments =>
    (arguments.zipIdx.filterMap fun (argument, n) ↦
      match argument with
      | .variable array => if isArray name n then some array else none
      | _ => none) ++ arraysOfAll isArray arguments
  | .standard name arguments =>
    (match arguments with
      | _ :: .variable array :: _ => if name = bytes "split" then [array] else []
      | _ => []) ++ arraysOfAll isArray arguments
  | .readRecord source target =>
    (match source with
      | some (_, inner) => inner.arrays isArray
      | none => []) ++
    (match target with
      | some inner => inner.arrays isArray
      | none => [])

/-- The names that some expressions use as arrays. -/
def arraysOfAll (isArray : Bytes → Nat → Bool) : List Expression → List Bytes
  | [] => []
  | first :: rest => first.arrays isArray ++ arraysOfAll isArray rest

end

mutual

/-- The names that a statement uses as arrays. -/
def Statement.arrays (isArray : Bytes → Nat → Bool) : Statement → List Bytes
  | .block body => arraysOfStatements isArray body
  | .choice condition first second =>
    condition.arrays isArray ++ first.arrays isArray ++ second.arrays isArray
  | .loop condition body after => condition.arrays isArray ++ body.arrays isArray ++ after.arrays isArray
  | .loopBehind body condition => body.arrays isArray ++ condition.arrays isArray
  | .forEach _ array body => array :: body.arrays isArray
  | .print values outlet | .printFormatted values outlet =>
    arraysOfAll isArray values ++
      (match outlet with
        | some (_, inner) => inner.arrays isArray
        | none => [])
  | .exit value | .giveBack value =>
    match value with
    | some inner => inner.arrays isArray
    | none => []
  | .delete name keys => name :: arraysOfAll isArray keys
  | .calculate value => value.arrays isArray
  | .next | .leave | .again | .nothing => []

/-- The names that some statements use as arrays. -/
def arraysOfStatements (isArray : Bytes → Nat → Bool) : List Statement → List Bytes
  | [] => []
  | first :: rest => first.arrays isArray ++ arraysOfStatements isArray rest

end

namespace Program

/-- The function of a name. -/
def function? (program : Program) (name : Bytes) : Option Function :=
  program.functions.find? fun function ↦ function.name == name

/-- The numbers of the parameters that are arrays, for each function, as far as it can be told in some
rounds. -/
def arrayParameters (program : Program) : Nat → List (Bytes × List Nat)
  | 0 => []
  | rounds + 1 =>
    let known := program.arrayParameters rounds
    let isArray := fun (name : Bytes) (n : Nat) ↦
      (known.find? fun entry ↦ entry.1 == name).any fun entry ↦ entry.2.contains n
    program.functions.map fun function ↦
      let arrays := function.body.arrays isArray
      (function.name, (function.parameters.zipIdx.filter fun entry ↦ arrays.contains entry.1).map
        Prod.snd)

end Program

end CodeRepair.Shell.Scanning
