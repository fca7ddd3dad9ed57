import CodeRepair.CommandLine.Invocation

/-!
# Reading a command line

The words of a command line are taken one by one.  The name of the task comes first, except for the
switches of the program itself; what may follow depends on the task.  A switch is written by its name
or by its letter, letters may stand together, and a value stands behind its switch or in the next
word.  Behind two dashes there are only operands.  The first word that does not fit ends the reading,
and so does the first that asks for help or for the version.
-/

namespace CodeRepair.CommandLine

/-- The names of the tasks. -/
inductive Verb
  | init
  | lint
  | fix
  | watch
  deriving DecidableEq, Repr

namespace Verb

/-- The word for a task. -/
def name : Verb → Text
  | init => "init".toList
  | lint => "lint".toList
  | fix => "fix".toList
  | watch => "watch".toList

/-- The task of a word. -/
def ofName? (word : Text) : Option Verb :=
  [init, lint, fix, watch].find? fun verb ↦ verb.name == word

/-- Whether a task takes one more operand after so many. -/
def takesOperandAfter (count : Nat) : Verb → Bool
  | init => false
  | lint | fix => count == 0
  | watch => true

end Verb

/-- The switches. -/
inductive Switch
  | config
  | force
  | json
  | output
  | skipAnalysis
  | help
  | version
  deriving DecidableEq, Repr

namespace Switch

/-- The name of a switch. -/
def name : Switch → Text
  | config => "config".toList
  | force => "force".toList
  | json => "json".toList
  | output => "output".toList
  | skipAnalysis => "skip-analysis".toList
  | help => "help".toList
  | version => "version".toList

/-- The letter of a switch, if it has one. -/
def letter? : Switch → Option Char
  | force => some 'f'
  | output => some 'o'
  | help => some 'h'
  | version => some 'V'
  | config | json | skipAnalysis => none

/-- Whether a switch has a value. -/
def takesValue : Switch → Bool
  | config | output => true
  | _ => false

end Switch

/-- Where a word stands. -/
inductive Scope
  /-- In front of the name of the task. -/
  | program
  /-- Behind the name of a task. -/
  | task (verb : Verb)
  /-- Behind the word that asks for help, and behind the name of what it is asked for. -/
  | help (isNamed : Bool)
  deriving DecidableEq, Repr

/-- The switches that may stand somewhere. -/
def Scope.switches : Scope → List Switch
  | program => [.config, .help, .version]
  | task .init => [.config, .help, .force]
  | task .lint => [.config, .help, .json]
  | task .fix => [.config, .help, .output, .skipAnalysis]
  | task .watch => [.config, .help, .json]
  | help _ => []

/-- The forms of a word. -/
inductive Word
  /-- Two dashes. -/
  | divider
  /-- The name of a switch, perhaps with a value. -/
  | named (name : Text) (value : Option Text)
  /-- The letters of switches. -/
  | letters (letters : Text)
  | plain (text : Text)
  deriving DecidableEq, Repr

/-- The form of a word. -/
def Word.ofText : Text → Word
  | ['-', '-'] => divider
  | '-' :: '-' :: text =>
    match text.dropWhile (· != '=') with
    | [] => named text none
    | _ :: value => named (text.takeWhile (· != '=')) (some value)
  | '-' :: letter :: rest => letters (letter :: rest)
  | text => plain text

/-- What ends the reading of a command line. -/
inductive Stop
  | help
  | version
  | refused
  deriving DecidableEq, Repr

/-- What a command line says so far. -/
structure Draft where
  scope : Scope := .program
  /-- The switches met in this scope. -/
  met : List Switch := []
  /-- The switch whose value is the next word. -/
  waiting : Option Switch := none
  /-- Whether only operands follow. -/
  isDivided : Bool := false
  config : Option Path := none
  output : Option Path := none
  operands : List Path := []
  deriving DecidableEq, Repr

namespace Draft

/-- A switch without a value.  None may be repeated. -/
def turnOn (draft : Draft) : Switch → Except Stop Draft
  | .help => .error .help
  | .version => .error .version
  | switch =>
    if draft.met.contains switch then .error .refused
    else .ok { draft with met := switch :: draft.met }

/-- A switch with its value, which is not empty. -/
def give (draft : Draft) (switch : Switch) (value : Text) : Except Stop Draft :=
  if value.isEmpty || draft.met.contains switch then .error .refused
  else
    let draft := { draft with met := switch :: draft.met, waiting := none }
    .ok (if switch = .config then { draft with config := some value }
      else { draft with output := some value })

/-- The letters of switches.  What follows the letter of one that has a value is that value. -/
def takeLetters (draft : Draft) : Text → Except Stop Draft
  | [] => .ok draft
  | letter :: rest =>
    match draft.scope.switches.find? fun switch ↦ switch.letter? == some letter with
    | none => .error .refused
    | some switch =>
      if switch.takesValue then
        match rest with
        | [] => .ok { draft with waiting := some switch }
        | '=' :: value => draft.give switch value
        | value => draft.give switch value
      else match draft.turnOn switch with
        | .ok draft => draft.takeLetters rest
        | .error stop => .error stop

/-- The name of a switch, perhaps with a value. -/
def takeNamed (draft : Draft) (name : Text) (value : Option Text) : Except Stop Draft :=
  match draft.scope.switches.find? fun switch ↦ switch.name == name with
  | none => .error .refused
  | some switch =>
    match value with
    | none =>
      if switch.takesValue then .ok { draft with waiting := some switch } else draft.turnOn switch
    | some value => if switch.takesValue then draft.give switch value else .error .refused

/-- The word that asks for help. -/
def helpWord : Text := "help".toList

/-- A word that is no switch. -/
def takePlain (draft : Draft) (word : Text) : Except Stop Draft :=
  match draft.scope with
  | .program =>
    if draft.isDivided then .error .refused
    else match Verb.ofName? word with
      | some verb => .ok { draft with scope := .task verb, met := [] }
      | none => if word = helpWord then .ok { draft with scope := .help false } else .error .refused
  | .task verb =>
    if word.isEmpty || !verb.takesOperandAfter draft.operands.length then .error .refused
    else .ok { draft with operands := draft.operands ++ [word] }
  | .help isNamed =>
    if isNamed || (word != helpWord && (Verb.ofName? word).isNone) then .error .refused
    else .ok { draft with scope := .help true }

/-- One more word. -/
def take (draft : Draft) (word : Text) : Except Stop Draft :=
  if draft.isDivided || draft.scope = .help false || draft.scope = .help true then
    draft.takePlain word
  else match Word.ofText word, draft.waiting with
    | .plain value, some switch => draft.give switch value
    | _, some _ => .error .refused
    | .divider, none => .ok { draft with isDivided := true }
    | .named name value, none => draft.takeNamed name value
    | .letters letters, none => draft.takeLetters letters
    | .plain word, none => draft.takePlain word

/-- The task of a draft that is complete. -/
def task? (draft : Draft) (verb : Verb) : Option Task :=
  match verb, draft.operands with
  | .init, _ => some (.init (draft.met.contains .force))
  | .lint, file :: _ => some (.lint file (draft.met.contains .json))
  | .lint, [] => none
  | .fix, operands =>
    some (.fix operands.head? draft.output (draft.met.contains .skipAnalysis))
  | .watch, [] => none
  | .watch, paths => some (.watch paths (draft.met.contains .json))

/-- What a draft says at the end of the command line. -/
def finish (draft : Draft) : Except Stop Invocation :=
  match draft.scope, draft.waiting with
  | _, some _ => .error .refused
  | .program, none => .error .refused
  | .help _, none => .error .help
  | .task verb, none =>
    match draft.task? verb with
    | some task => .ok ⟨draft.config, task⟩
    | none => .error .refused

end Draft

/-- The invocation of a command line. -/
def read (words : List Text) : Except Stop Invocation :=
  (words.foldlM Draft.take {}).bind Draft.finish

end CodeRepair.CommandLine
