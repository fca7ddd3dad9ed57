import CodeRepair.Path.Basic

/-!
# Invocations

An invocation says which task the program does and with which configuration file.  It ends with an
exit code.
-/

namespace CodeRepair.CommandLine

/-- What the program is asked to do. -/
inductive Task
  /-- Write the default configuration, in the place of another one only if that is forced. -/
  | init (force : Bool)
  /-- Print the findings in a file. -/
  | lint (file : Path) (json : Bool)
  /-- Repair a file, and hand the result over to another file or to the standard output. -/
  | fix (file output : Option Path) (skipsAnalysis : Bool)
  /-- Print the findings in each file below some paths when it is saved. -/
  | watch (paths : List Path) (json : Bool)
  deriving DecidableEq, Repr

/-- A task with the configuration file that was named for it, if one was. -/
structure Invocation where
  config : Option Path
  task : Task
  deriving DecidableEq, Repr

/-- How the program ends. -/
inductive ExitCode
  | ok
  | failed
  /-- There is nothing to repair. -/
  | noTarget
  /-- The command line is none of the program. -/
  | badUsage
  deriving DecidableEq, Repr

/-- The number of an exit code. -/
def ExitCode.number : ExitCode → Nat
  | ok => 0
  | failed => 1
  | noTarget => 2
  | badUsage => 2

end CodeRepair.CommandLine
