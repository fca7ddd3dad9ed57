import CodeRepair.Shell.Utility.Basic

/-!
# Messages and tests

Some utilities only write their arguments, or tell something by their status.
-/

namespace CodeRepair.Shell

open Work

/-- Nothing, and success. -/
def succeed : Utility := setStatus 0

/-- Nothing, and failure. -/
def decline : Utility := setStatus 1

/-- The arguments on a line. -/
def echoArguments : Utility := do
  put (echo .utility (← read).arguments)

/-- The arguments under the control of the first one. -/
def printfArguments : Utility := do
  let arguments := (← read).arguments
  match if arguments.head? = some (bytes "--") then arguments.drop 1 else arguments with
  | [] => misuse 1 (bytes "missing operand")
  | pattern :: rest =>
    let printed := printf .utility pattern rest
    put printed.output
    for complaint in printed.complaints do
      warn complaint
    setStatus (if printed.failed then 1 else 0)

/-- Whether a condition holds. -/
def testArguments : Utility := do
  let view ← view
  let name := ((← called).reverse.takeWhile (· != byte '/')).reverse
  match condition .utility view name (← read).arguments with
  | .ok status => setStatus status
  | .error message => fail 2 message

end CodeRepair.Shell
