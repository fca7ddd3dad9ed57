import CodeRepair.Refresh

/-!
# Refreshes side by side

Several refreshes share one collection.  They take their steps in any order, and between two steps the
files may change in any way.  The log tells which refresh did what.
-/

namespace CodeRepair.Refresh

/-- Refreshes at work. -/
structure Team where
  files : FileSystem
  collection : Collection := {}
  /-- How far each refresh has come. -/
  phases : List Phase
  /-- What was done, and by which refresh. -/
  log : List (Nat × Action) := []

/-- What happens next. -/
inductive Move
  /-- Something else changes the files. -/
  | files (files : FileSystem)
  /-- A refresh takes its next step, with the answer of the analyzer if that step runs it. -/
  | refresh (index : Nat) (answer : AnalyzerAnswer)

namespace Team

/-- The refreshes of some paths before their first steps. -/
def start (files : FileSystem) (paths : List Path) : Team :=
  { files, phases := paths.map .waiting }

/-- One move. -/
def step (team : Team) : Move → Team
  | .files files => { team with files }
  | .refresh index answer =>
    match team.phases[index]? with
    | none => team
    | some phase =>
      let (phase, journal) := phase.next team.files answer
      { team with
        collection := team.collection.apply journal
        phases := team.phases.set index phase
        log := team.log ++ journal.map fun action ↦ (index, action) }

/-- Moves one after the other. -/
def run (team : Team) (moves : List Move) : Team :=
  moves.foldl step team

end Team

end CodeRepair.Refresh
