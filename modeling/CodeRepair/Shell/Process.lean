import CodeRepair.Shell.OwnCommand

/-!
# Processes

A process has its own variables and descriptors; what it does to files, streams and the time stays
when it has ended.  A utility runs in a process and does its work at once.
-/

namespace CodeRepair.Shell

/-- How a script is run. -/
structure Manner where
  /-- Whether it may fail. -/
  isTested : Bool := false
  /-- Whether the process ends behind it. -/
  isLast : Bool := false

/-- A computation that is done again as long as it says so, but not for ever. -/
def repeatedly : Nat → Run Bool → Run Unit
  | 0, _ => throw .endless
  | turns + 1, run => do
    if ← run then repeatedly turns run

/-- The turns of a loop that is taken to have no end. -/
def greatestTurns : Nat := 50000

/-- One turn of a loop; whether another one follows. -/
def turn (run : Run Unit) : Run Bool := do
  match ← Run.attempt run with
  | .ok () => return true
  | .error (.leaveLoop count) => if count ≤ 1 then return false else throw (.leaveLoop (count - 1))
  | .error (.nextTurn count) => if count ≤ 1 then return true else throw (.nextTurn (count - 1))
  | .error flow => throw flow

/-- A computation inside a loop. -/
def looping (run : Run Unit) : Run Unit := do
  changeOwn fun own ↦ { own with loops := own.loops + 1 }
  let result ← Run.attempt run
  changeOwn fun own ↦ { own with loops := own.loops - 1 }
  match result with
  | .ok () => return ()
  | .error flow => throw flow

/-- What belongs to a new process that a process starts. -/
def Own.child (own : Own) (process : Nat) : Own :=
  { own with
    process
    ancestors := own.process :: own.ancestors
    traps := own.traps.filter fun trap ↦ trap.2.isEmpty
    noticed := []
    arriving := [] }

/-- A computation as a process of its own, and how it ends. -/
def asChild (run : Run Unit) : Run Ended := do
  let before ← get
  set { before with
    nextProcess := before.nextProcess + 1
    own := before.own.child before.nextProcess }
  let result ← Run.attempt run
  let after ← get
  set { after with
    own := before.own
    files := { after.files with workingDirectory := before.files.workingDirectory } }
  match result with
  | .error (.signal signal) => return .stopped signal
  | .error .timeout => throw .timeout
  | .error .endless => throw .endless
  | _ => return .exited (after.own.status % 256)

/-- A computation that may take some milliseconds, or nothing if it takes longer. -/
def limited {α : Type} (limit : Option Nat) (run : Run α) : Run (Option α) := do
  let before ← get
  match limit with
  | none => return some (← run)
  | some limit =>
    let deadline := before.clock + limit
    if before.deadline ≤ deadline then return some (← run)
    else
      set { before with deadline }
      let result ← Run.attempt run
      modify fun state ↦ { state with deadline := before.deadline }
      match result with
      | .ok a => return some a
      | .error .timeout | .error .endless =>
        modify fun state ↦ { state with clock := deadline }
        return none
      | .error flow => throw flow

/-- The shell says which signal stopped a process that it waited for. -/
def tellEnd : Ended → Run Unit
  | .stopped signal => do
    if signal != 2 && signal != 13 then
      let _ ← emit 2 (signalText signal ++ [lineEnd])
  | _ => return ()

/-- Signals reach the process that were sent to it before. -/
def noticeSignals : Run Unit := do
  let state ← get
  let process := state.own.process
  if !(state.sent.isEmpty && state.own.arriving.isEmpty) then
    let mine := state.sent.filter fun entry ↦ entry.1 == process
    let due := state.own.arriving.filter fun entry ↦ entry.1 ≤ state.clock
    set { state with
      sent := state.sent.filter fun entry ↦ entry.1 != process
      own := { state.own with arriving := state.own.arriving.filter fun entry ↦ state.clock < entry.1 } }
    for entry in mine ++ due do receive entry.2

/-- Whether something is run when a signal arrives. -/
def Own.hasTraps (own : Own) : Bool :=
  own.traps.any fun trap ↦ !trap.2.isEmpty

/-- Streams are forgotten that nothing leads to any more. -/
def reclaim (count : Nat) : Run Unit :=
  modify fun state ↦
    if state.own.descriptors.all (fun entry ↦ entry.2 < count) &&
        state.jobs.all fun job ↦ job.progress != .waiting && job.progress != .running then
      { state with streams := state.streams.take count }
    else state

/-- A computation under redirections, or another one if they fail.  They may last. -/
def redirecting (targets : List (Nat × Target)) (lasts : Bool) (failed run : Run Unit) : Run Unit := do
  if targets.isEmpty then run
  else
    let before ← get
    let restore := do
      for entry in targets do setDescriptor entry.1 (before.indexOf entry.1)
      reclaim before.streams.length
    match ← Run.attempt (targets.forM fun entry ↦ redirect entry.1 entry.2) with
    | .error .fail =>
      restore
      failed
    | .error flow =>
      restore
      throw flow
    | .ok () =>
      if lasts then run
      else
        let result ← Run.attempt run
        restore
        match result with
        | .ok () => return ()
        | .error flow => throw flow

/-! ## Utilities -/

/-- What a utility wrote reaches its descriptors; the first reason that some of its output does not. -/
def writeAll (written : List Written) : Run (Option FileFault) :=
  written.foldlM (fun (before : Option FileFault) part ↦ do
    if part.isError then
      let _ ← emit 2 part.content
      return before
    else
      let fault ← emit 1 part.content
      return before.orElse fun _ ↦ fault) none

/-- Some work is done by the process. -/
def performWork {α : Type} (work : Work α) (words : List Bytes) : Run (Option α) := do
  let state ← get
  let source := state.indexOf 0
  let input := match source with
    | some index => state.readable index
    | none => .error .badDescriptor
  let name := words.head?.getD []
  let (result, effect) := work.perform
    { name, arguments := words.drop 1, environment := state.environment,
      descriptors := state.descriptorKinds, input } state.files
  match source with
  | some index =>
    if effect.drains then
      match ← Run.attempt (awaitEnd index) with
      | .ok () => pure ()
      | .error flow =>
        if effect.isPrompt then
          let _ ← writeAll effect.written
        throw flow
    modify fun state ↦ { state.leave index effect.input with files := effect.files }
  | none => modify fun state ↦ { state with files := effect.files }
  match ← writeAll effect.written with
  | some fault =>
    let _ ← emit 2 (name ++ bytes ": write error: " ++ Text.encode fault.reason ++ [lineEnd])
    endWith (if name = bytes "grep" then 2 else 1)
  | none => endWith effect.status
  if effect.isEndless then throw .endless
  return result

end CodeRepair.Shell
