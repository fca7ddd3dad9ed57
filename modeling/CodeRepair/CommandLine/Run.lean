import CodeRepair.Chat.Client
import CodeRepair.CommandLine.Reader
import CodeRepair.Config.Stored
import CodeRepair.Document.Fixed
import CodeRepair.Execution.Command
import CodeRepair.Lint
import CodeRepair.Repair

/-!
# Runs of the program

A run does the task of an invocation on the files.  It tells the user what happens, prints findings
or a repaired document, and leaves files behind.  A repair comes out as a whole or not at all.
-/

namespace CodeRepair.CommandLine

/-- What a run works with besides the files: how a configuration gives an analyzer, and how it gives a
model whose world is of type `τ`. -/
structure Surroundings (τ : Type) where
  analyzer : Config.Analysis → Analyzer FileSystem
  model : Config.Model → Except Failure (Model τ)

/-- The surroundings of commands, environment variables and the web. -/
def Surroundings.standard {τ : Type} (launcher : Execution.Launcher FileSystem)
    (environment : Text → Option Text) (transport : Web.Transport τ) : Surroundings τ :=
  { analyzer := launcher.analyzer
    model := fun settings ↦
      match Chat.Client.ofConfig environment settings with
      | .ok client => .ok (client.model transport)
      | .error fault => .error fault.failure }

/-- What a run came to. -/
structure Run (τ : Type) where
  result : Except Failure ExitCode
  /-- What stands on the standard output. -/
  output : Text := []
  notices : List Notice := []
  files : FileSystem
  model : τ

namespace Run

/-- The exit code of a run. -/
def exitCode {τ : Type} (run : Run τ) : ExitCode :=
  match run.result with
  | .ok code => code
  | .error _ => .failed

/-- What stands on the error output: the notices, and a failure in one line at the end. -/
def errors {τ : Type} (run : Run τ) : Text :=
  (Notice.displayAll 0 run.notices).flatten ++
    match run.result with
    | .ok _ => []
    | .error failure => failure.message ++ ['\n']

end Run

/-! ## The tasks -/

/-- The configuration file of an invocation. -/
def Invocation.configPath (invocation : Invocation) : Path :=
  invocation.config.getD Config.fileName

/-- The form of a listing. -/
def formatOf (json : Bool) : ListingFormat :=
  if json then .json else .text

/-- Write the default configuration. -/
def init {τ : Type} (files : FileSystem) (model : τ) (path : Path) (force : Bool) : Run τ :=
  if files.contains path && !force then
    { result := .ok .ok
      notices := [.info (path ++ " already exists (use --force to overwrite)".toList)]
      files, model }
  else match Config.store files path {} with
    | (none, files) => { result := .ok .ok, files, model }
    | (some fault, files) =>
      { result := .error (("write ".toList ++ path) :: fault.failure), files, model }

/-- Print the findings in a file.  Only a failed analysis is a failure. -/
def lint {τ : Type} (surroundings : Surroundings τ) (files : FileSystem) (model : τ)
    (config : Config) (file : Path) (json : Bool) : Run τ :=
  match Document.load files file with
  | .error failure => { result := .error failure, files, model }
  | .ok document =>
    let (report, journal, files) :=
      Lint.run (surroundings.analyzer config.analysis) (fun _ ↦ some document.id) files document
    { result := .ok (if report.run.isCompleted then .ok else .failed)
      output := journal.publications.flatMap fun set ↦ (formatOf json).write set.1 set.2
      notices := journal.notices
      files, model }

/-- What the user is told when there is nothing to repair. -/
def noTargetNotice : Notice :=
  .info "No document to fix: pass the path of a Python file.".toList

/-- What the user is told about a document before its repair. -/
def openingNotices (document : Document) : List Notice :=
  if document.isPython then []
  else [.info (document.id.path ++ " does not look like a Python file; repairing anyway".toList)]

/-- The failure of a repair at a stage. -/
def repairFailure (index : Nat) (message : Text) : Failure :=
  let label := (Stage.standard[index]?.map Stage.label).getD "unknown stage".toList
  ["repair failed during \"".toList ++ label ++ "\": ".toList ++ message]

/-- Repair a document with a model, and hand the result over. -/
def fixDocument {τ : Type} (surroundings : Surroundings τ) (files : FileSystem) (model : Model τ)
    (state : τ) (config : Config) (document : Document) (output : Option Path)
    (skipsAnalysis : Bool) : Run τ :=
  let analyzer := if skipsAnalysis then none else some (surroundings.analyzer config.analysis)
  let run := Repair.document analyzer files model state document Stage.standard
    ⟨config.model.model, config.model.temperature⟩
  let notices := openingNotices document ++ run.journal.notices
  match run.outcome with
  | .failed index message =>
    { result := .error (repairFailure index message), notices, files := run.world
      model := run.model }
  | .succeeded text =>
    match FixedDocument.write run.world document.id output text with
    | (.ok output, files) =>
      { result := .ok .ok, output, notices, files, model := run.model }
    | (.error failure, files) =>
      { result := .error failure, notices, files, model := run.model }

/-- Repair a file, if one is named. -/
def fix {τ : Type} (surroundings : Surroundings τ) (files : FileSystem) (state : τ)
    (config : Config) (file output : Option Path) (skipsAnalysis : Bool) : Run τ :=
  match file with
  | none => { result := .ok .noTarget, notices := [noTargetNotice], files, model := state }
  | some file =>
    match Document.load files file with
    | .error failure => { result := .error failure, files, model := state }
    | .ok document =>
      match surroundings.model config.model with
      | .error failure =>
        { result := .error failure, notices := openingNotices document, files, model := state }
      | .ok model =>
        fixDocument surroundings files model state config document output skipsAnalysis

/-! ## The program -/

/-- What an invocation comes to. -/
inductive Course (τ : Type)
  | ended (run : Run τ)
  /-- Files are watched from now on. -/
  | watching (config : Config) (paths : List Path) (format : ListingFormat)

/-- The course of a task that needs the configuration, which is loaded first. -/
def runConfigured {τ : Type} (files : FileSystem) (state : τ) (path : Path)
    (course : Config → Course τ) : Course τ :=
  match Config.load files path with
  | .error fault => .ended { result := .error fault.failure, files, model := state }
  | .ok config => course config

/-- The course of an invocation. -/
def Invocation.run {τ : Type} (invocation : Invocation) (surroundings : Surroundings τ)
    (files : FileSystem) (state : τ) : Course τ :=
  let path := invocation.configPath
  match invocation.task with
  | .init force => .ended (init files state path force)
  | .lint file json =>
    runConfigured files state path fun config ↦
      .ended (lint surroundings files state config file json)
  | .fix file output skipsAnalysis =>
    runConfigured files state path fun config ↦
      .ended (fix surroundings files state config file output skipsAnalysis)
  | .watch paths json =>
    runConfigured files state path fun config ↦
      .watching config paths (formatOf json)

/-- The version of the program, as it is shown. -/
def versionText : Text := "lintfix 0.1.0\n".toList

/-- What the program shows to those who ask for help. -/
def helpText : Text :=
  ("Usage: lintfix [--config FILE] init [--force]\n" ++
    "       lintfix [--config FILE] lint FILE [--json]\n" ++
    "       lintfix [--config FILE] fix [FILE] [--output FILE] [--skip-analysis]\n" ++
    "       lintfix [--config FILE] watch PATH... [--json]\n").toList

/-- The run of a command line that is no invocation. -/
def Stop.run {τ : Type} (stop : Stop) (files : FileSystem) (state : τ) : Run τ :=
  match stop with
  | .help => { result := .ok .ok, output := helpText, files, model := state }
  | .version => { result := .ok .ok, output := versionText, files, model := state }
  | .refused => { result := .ok .badUsage, notices := [.info helpText], files, model := state }

/-- The course of a command line. -/
def course {τ : Type} (surroundings : Surroundings τ) (files : FileSystem) (state : τ)
    (words : List Text) : Course τ :=
  match read words with
  | .ok invocation => invocation.run surroundings files state
  | .error stop => .ended (stop.run files state)

end CodeRepair.CommandLine
