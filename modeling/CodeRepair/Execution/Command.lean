import CodeRepair.Analysis
import CodeRepair.Config.Basic
import CodeRepair.Execution.Supervision

/-!
# Commands that analyze

An analysis command is the configured one with the path of the document behind it.  It runs in the
directory of the document, reads the text of the document and is stopped at its time limit.  Its code
does not matter: a tool that finds something ends with a code of its own.
-/

namespace CodeRepair.Execution

/-- A command as it is started. -/
structure Command where
  /-- The program and its arguments. -/
  words : List Text
  /-- The directory in which it runs, if that is not the working directory. -/
  directory : Option Path := none
  input : List UInt8
  /-- Its time limit in milliseconds. -/
  limit : Nat
  deriving DecidableEq, Repr

/-- What commands do in a world of type `σ`. -/
structure Launcher (σ : Type) where
  launch : σ → Command → Conduct × σ

/-- The command that analyzes a document. -/
def Command.ofDocument (settings : Config.Analysis) (document : Document) : Command :=
  { words := settings.command ++ [document.id.path]
    directory := document.id.path.parent?
    input := Text.encode document.text
    limit := settings.timeoutMs }

/-- What the events of an analysis command come to. -/
def answerOf (settings : Config.Analysis) (events : List Event) : AnalyzerAnswer :=
  let (lines, result) := collect settings.outputLimitBytes.toNat events
  match result with
  | .ok collected => ⟨lines, .ok collected.output⟩
  | .error message =>
    ⟨lines, .error ["run ".toList ++ settings.command.head?.getD [], message]⟩

/-- The analyzer that runs the configured command. -/
def Launcher.analyzer {σ : Type} (launcher : Launcher σ) (settings : Config.Analysis) : Analyzer σ :=
  ⟨fun world document ↦
    let command := Command.ofDocument settings document
    let (conduct, world) := launcher.launch world command
    (answerOf settings (conduct.events command.limit), world)⟩

end CodeRepair.Execution
