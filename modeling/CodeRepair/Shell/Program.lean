import CodeRepair.Shell.Executable
import CodeRepair.Shell.Utility.Character
import CodeRepair.Shell.Utility.Column
import CodeRepair.Shell.Utility.Difference
import CodeRepair.Shell.Utility.Digest
import CodeRepair.Shell.Utility.Dump
import CodeRepair.Shell.Utility.Editor
import CodeRepair.Shell.Utility.Identity
import CodeRepair.Shell.Utility.Joining
import CodeRepair.Shell.Utility.Launching
import CodeRepair.Shell.Utility.Message
import CodeRepair.Shell.Utility.Moment
import CodeRepair.Shell.Utility.Order
import CodeRepair.Shell.Utility.Portion
import CodeRepair.Shell.Utility.Portion
import CodeRepair.Shell.Utility.Portion
import CodeRepair.Shell.Utility.Portion
import CodeRepair.Shell.Utility.Scanner
import CodeRepair.Shell.Utility.Search
import CodeRepair.Shell.Utility.Stream

/-!
# The programs of the machine

Each program is the shell, a utility that does its work by itself, or one that plans to run others.
-/

namespace CodeRepair.Shell

open Work

/-- A program of the machine. -/
inductive Program
  | shell
  | utility (work : Utility)
  | planning (work : Work Plan)

/-- The paths of programs. -/
def which : Utility := do
  let options ← options [flag 'a' "all"] 2 true
  let files := (← get).files
  let searched := (((← read).environment.find? fun entry ↦ entry.1 == "PATH".toList).map Prod.snd).getD []
  for name in options.operands do
    match findExecutable files searched (argument name) with
    | .ok (path, _) => putLine (Text.encode path)
    | .error _ => setStatus 1

/-- The utilities. -/
def utilities : List (String × Utility) :=
  [("[", testArguments), ("arch", arch), ("base64", base64), ("basename", basename), ("cat", cat),
    ("chmod", chmod), ("cksum", cksum), ("cmp", cmp), ("comm", comm), ("cp", cp), ("cut", cut),
    ("date", date), ("dd", dd), ("diff", diff), ("dirname", dirname), ("echo", echoArguments),
    ("egrep", oldGrep 'E'), ("expand", expand), ("expr", expr), ("factor", factor), ("false", decline),
    ("fgrep", oldGrep 'F'), ("fold", fold), ("grep", grep), ("groups", groups), ("head", head),
    ("id", identity), ("join", joinFiles), ("link", linkFile), ("ln", ln), ("logname", logname),
    ("ls", ls), ("md5sum", md5sum), ("mkdir", mkdir), ("mktemp", mktemp), ("mv", mv), ("nl", nl),
    ("od", od), ("paste", paste), ("printenv", printenv), ("printf", printfArguments),
    ("pwd", printDirectory), ("readlink", readlink), ("realpath", realpath), ("rev", rev), ("rm", rm),
    ("rmdir", rmdir), ("sed", sed), ("seq", seq), ("sha1sum", sha1sum), ("sha224sum", sha224sum),
    ("sha256sum", sha256sum), ("sha384sum", sha384sum), ("sha512sum", sha512sum), ("sort", sort),
    ("split", split), ("stat", stat), ("sync", sync), ("tac", tac), ("tail", tail), ("tee", tee),
    ("test", testArguments), ("touch", touch), ("tr", tr), ("true", succeed), ("truncate", truncate),
    ("tty", tty), ("uname", uname), ("unexpand", unexpand), ("uniq", uniq), ("unlink", unlink),
    ("wc", wc), ("which", which), ("whoami", whoami), ("yes", yes)]

/-- The utilities that run programs. -/
def planners : List (String × Work Plan) :=
  [("awk", awk), ("env", env), ("find", find), ("mawk", awk), ("nice", nice), ("nohup", nohup),
    ("setsid", setsid), ("sleep", sleep), ("stdbuf", stdbuf), ("timeout", timeout), ("xargs", xargs)]

/-- The names of the shell. -/
def shellNames : List String := ["bash", "dash", "sh"]

/-- The program of a name. -/
def program? (name : Text) : Option Program :=
  if shellNames.any fun shell ↦ shell.toList == name then some .shell
  else
    ((utilities.find? fun entry ↦ entry.1.toList == name).map fun entry ↦ Program.utility entry.2).orElse
      fun _ ↦ (planners.find? fun entry ↦ entry.1.toList == name).map fun entry ↦ .planning entry.2

/-- The names of all programs. -/
def programNames : List Text :=
  (shellNames ++ utilities.map Prod.fst ++ planners.map Prod.fst).map String.toList

end CodeRepair.Shell
