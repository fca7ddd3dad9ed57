import CodeRepair.CommandLine.Run
import CodeRepair.Refresh
import CodeRepair.Shell.Start
import CodeRepair.Watch.Loop
import CodeRepair.Watch.Poll

/-!
# The program

The outer layer copies what an invocation names from the disk, runs the program on the copy, shows what
the run shows and writes back what the run changed.  Commands run in the shell of the library, and no
request leaves the machine.
-/

namespace CodeRepair.Program

open CommandLine

/-- The location that a path names as seen from a directory. -/
def locationOf (directory : Location) (path : Path) : Location :=
  let start := if path.isAbsolute then [] else directory
  path.components.foldl (fun location component ↦
    match component with
    | .normal name => location ++ [name]
    | .parent => location.dropLast
    | _ => location) start

/-- What stands on the disk at a path, if anything does.  Reading a directory fails with a number of its
own. -/
def nodeAt (path : String) : IO (Option Node) := do
  match ← (IO.FS.readBinFile path).toBaseIO with
  | .ok content => return some (.file content.toList)
  | .error (.inappropriateType _ 21 _) => return some .directory
  | .error _ => return none

/-- The files with what stands on the disk on the way to a path. -/
def copyPath (files : FileSystem) (path : Path) : IO FileSystem := do
  let location := locationOf files.workingDirectory path
  let onTheWay := (List.range location.length).map fun n ↦ location.take (n + 1)
  onTheWay.foldlM (fun files location ↦ do
    match ← nodeAt (String.ofList location.path) with
    | some node => return files.put location node
    | none => return files) files

/-- The files that the paths name. -/
def copyPaths (paths : List Path) : IO FileSystem := do
  let directory := (← IO.currentDir).toString.toList
  let files : FileSystem := { workingDirectory := locationOf [] directory }
  (directory :: paths).foldlM copyPath files

/-- Bring the disk up to date after a run. -/
def writeBack (before after : FileSystem) : IO Unit :=
  after.nodes.forM fun entry ↦ do
    let path := String.ofList entry.1.path
    if before.lookup entry.1 != some entry.2 then
      match entry.2 with
      | .directory => IO.FS.createDirAll path
      | .file content => IO.FS.writeBinFile path ⟨content.toArray⟩
      | _ => pure ()

/-- The paths that an invocation names. -/
def namedPaths (invocation : Invocation) : List Path :=
  invocation.configPath :: match invocation.task with
    | .init _ | .watch _ _ => []
    | .lint file _ => [file]
    | .fix file output _ => file.toList ++ output.toList

/-- The environment variables that a configuration names. -/
def environmentOf (files : FileSystem) (path : Path) : IO (Text → Option Text) := do
  match Config.load files path with
  | .error _ => return fun _ ↦ none
  | .ok config =>
    let value ← IO.getEnv (String.ofList config.model.apiKeyEnv)
    return fun _ ↦ value.map String.toList

/-- No request gets through. -/
def offline : Web.Transport Unit :=
  ⟨fun _ _ ↦ (none, ())⟩

/-- One look at the files that are named. -/
def look (paths : List Path) : IO Watch.Look :=
  paths.filterMapM fun path ↦ do
    match ← nodeAt (String.ofList path) with
    | some (.file content) => return some (path, content)
    | _ => return none

/-- Refresh a file and show what comes of it. -/
def refresh (config : Config) (format : ListingFormat) (path : Path) : IO Unit := do
  let files ← copyPaths [path]
  let (journal, _) := Refresh.run (Shell.launcher.analyzer config.analysis) id files path
  for set in journal.publications do
    IO.print (String.ofList (format.write set.1 set.2))
  for text in Notice.displayAll 0 journal.notices do
    IO.eprint (String.ofList text)

/-- Look at the named files again and again. -/
partial def watch (config : Config) (paths : List Path) (format : ListingFormat)
    (seen : Watch.Look) : IO Unit := do
  -- one pause has at most 32 bits of milliseconds
  IO.sleep (min config.watch.pollIntervalMs 0xFFFFFFFF).toUInt32
  let now ← look paths
  let inputs := (Watch.eventsBetween seen now).map Watch.Input.event ++ [.timeout]
  for path in (Watch.run [] inputs).flatten do
    refresh config format path
  watch config paths format now

/-- Show what a run shows, and give its exit code. -/
def present (run : Run Unit) : IO UInt32 := do
  IO.print (String.ofList run.output)
  IO.eprint (String.ofList run.errors)
  return UInt32.ofNat run.exitCode.number

/-- Run the program on the words of its command line. -/
def run (words : List Text) : IO UInt32 := do
  let invocation := (read words).toOption
  let before ← copyPaths ((invocation.map namedPaths).getD [])
  let environment ← match invocation with
    | some invocation => environmentOf before invocation.configPath
    | none => pure fun _ ↦ none
  let surroundings := Surroundings.standard Shell.launcher environment offline
  match course surroundings before () words with
  | .ended run =>
    writeBack before run.files
    present run
  | .watching config paths format =>
    watch config paths format (← look paths)
    return 0

end CodeRepair.Program

/-- The program. -/
def main (words : List String) : IO UInt32 :=
  CodeRepair.Program.run (words.map String.toList)
