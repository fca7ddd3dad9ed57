import CodeRepair.Execution.Command
import CodeRepair.Shell.Evaluation

/-!
# Starting commands

A command is found among the programs of the machine or in the files, and its process runs until it
ends or its time is over.  What it has left in the background goes on as long as it may still write to
where the output goes.  Under a limit of no time at all a program does nothing.
-/

namespace CodeRepair.Shell

open Execution (Command Conduct Ending Launcher)

/-- How deep scripts are run. -/
def greatestDepth : Nat := 20000

/-- The variables that a command gets to know. -/
def environmentOfStart : List (Text × Cell) :=
  [("PATH", "/usr/local/sbin:/usr/local/bin:/usr/sbin:/usr/bin:/sbin:/bin"), ("HOME", "/root")].map fun entry ↦
    (entry.1.toList, ⟨some (bytes entry.2), true, false⟩)

/-- The directory in which a command runs. -/
def locationOf (files : FileSystem) (command : Command) : Except FileFault Location :=
  match command.directory with
  | none => .ok files.workingDirectory
  | some directory =>
    match files.locate directory with
    | .ok (location, .directory) => .ok location
    | .ok _ => .error .notADirectory
    | .error fault => .error fault

/-- What is run for a command in a directory. -/
def launchOfCommand (files : FileSystem) (command : Command) : Except FileFault Launch :=
  let words := command.words.map Text.encode
  let searched := (environmentOfStart.head?.bind fun entry ↦ entry.2.value).getD []
  match findLaunch files searched words with
  | .ok (.script _ _ _) => .error .malformedProgram
  | launch => launch

/-- The state in which a command begins. -/
def stateOfStart (files : FileSystem) (command : Command) : State :=
  { files
    streams := [.source command.input (some 0), .collector [], .collector []]
    deadline := command.limit
    own :=
      { name := Text.encode (command.words.head?.getD [])
        store := environmentOfStart
        descriptors := [(0, 0), (1, 1), (2, 2)]
        directory := files.workingDirectory
        path := Location.path files.workingDirectory
        process := 4242
        shell := 4242 } }

/-- The jobs that have been left behind are run: those that hold the output to their ends, the others up
to now. -/
def settleRest : Nat → Run Unit
  | 0 => return ()
  | rounds + 1 => do
    let state ← get
    let waiting := state.jobs.filter fun job ↦ job.progress == .waiting
    for job in waiting do
      let holdsOutput := job.own.descriptors.any fun entry ↦ entry.2 == 1 || entry.2 == 2
      settle greatestDepth job.process (if holdsOutput then .awaited else .kept (state.clock + 1))
    if !waiting.isEmpty then settleRest rounds

/-- What has been left in the background is run up to a moment. -/
def settleUntil (time : Nat) : Run Unit := do
  for job in (← get).jobs do
    if job.progress = .waiting then settle greatestDepth job.process (.kept time)

/-- What a process does from its beginning to its end, and with what code it ends. -/
def runProcess (launch : Launch) : Run Ending := do
  let limit := (← get).deadline
  let result ← Run.attempt (runLaunch greatestDepth launch)
  let status := (← own).status % 256
  let ending : Ending := match result with
    | .error .timeout | .error .endless => .timedOut
    | .error (.signal _) => .exited none
    | _ => .exited (some status)
  if ending = .timedOut then
    let _ ← Run.attempt (settleUntil limit)
  else
    modify fun state ↦ { state with deadline := longestWait }
    let _ ← Run.attempt (settleRest 16)
  return ending

/-- What a started command did, and the files after it. -/
def conductOf (files : FileSystem) (command : Command) (launch : Launch) : Conduct × FileSystem :=
  let (ending, state) := (runProcess launch).run (stateOfStart files command)
  (.started (state.written 1) (state.written 2) (ending.toOption.getD .timedOut), state.files)

/-- What a command did, and the files after it. -/
def start (files : FileSystem) (command : Command) : Conduct × FileSystem :=
  if command.words.any fun word ↦ word.contains '\x00' then (.refused .argumentHoldsNull, files)
  else match locationOf files command with
    | .error fault => (.refused (.file fault), files)
    | .ok location =>
      let inside := { files with workingDirectory := location }
      match launchOfCommand inside command with
      | .error fault => (.refused (.file fault), files)
      | .ok launch =>
        if command.limit = 0 then (.started [] [] .timedOut, files)
        else
          let (conduct, after) := conductOf inside command launch
          (conduct, { after with workingDirectory := files.workingDirectory })

/-- The commands of a machine, in a world of files. -/
def launcher : Launcher FileSystem :=
  ⟨start⟩

end CodeRepair.Shell
