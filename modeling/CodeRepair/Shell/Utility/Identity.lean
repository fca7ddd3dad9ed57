import CodeRepair.Shell.Utility.Basic

/-!
# Who and where

Utilities that tell what machine this is and who runs it.
-/

namespace CodeRepair.Shell

open Work

/-- No operand is allowed. -/
def Work.refuseOperands (options : Options) : Work Unit := do
  if let some extra := options.operands.head? then misuse 1 (bytes "extra operand " ++ quotedText extra)

/-- The kind of the machine. -/
def machineName : Bytes := bytes "x86_64"

/-- The properties of the system, in the order in which they are shown. -/
def uname : Utility := do
  let options ← options [flag 'a' "all", flag 's' "kernel-name", flag 'n' "nodename",
    flag 'r' "kernel-release", flag 'v' "kernel-version", flag 'm' "machine", flag 'p' "processor",
    flag 'i' "hardware-platform", flag 'o' "operating-system"] 1 false
  refuseOperands options
  let properties := [("s", bytes "Linux"), ("n", bytes "host"), ("r", bytes "6.0.0"), ("v", bytes "#1 SMP"),
    ("m", machineName), ("p", bytes "unknown"), ("i", bytes "unknown"), ("o", bytes "GNU/Linux")]
  let all := options.has "a"
  let shown := properties.filter fun entry ↦
    options.has entry.1 || (all && entry.2 != bytes "unknown") ||
      (options.given.isEmpty && entry.1 == "s")
  putLine (List.intercalate [byte ' '] (shown.map Prod.snd))

/-- The kind of the machine. -/
def arch : Utility := do
  refuseOperands (← options [] 1 false)
  putLine machineName

/-- Whoever runs it. -/
def whoami : Utility := do
  refuseOperands (← options [] 1 false)
  putLine (bytes "root")

/-- The name with which somebody logged in; nobody did. -/
def logname : Utility := do
  refuseOperands (← options [] 1 false)
  fail 1 (bytes "no login name")

/-- The users of the machine, with their numbers and groups. -/
def users : List (String × Nat × String) :=
  [("root", 0, "root"), ("nobody", 65534, "nogroup")]

/-- The users that operands name, or whoever runs it. -/
def Work.usersNamed (options : Options) : Work (List (String × Nat × String)) := do
  if options.operands.isEmpty then return users.take 1
  else options.operands.filterMapM fun name ↦ do
    match users.find? fun user ↦ bytes user.1 == name || ofNatural user.2.1 == name with
    | some user => return some user
    | none =>
      blame 1 (quotedText name ++ bytes ": no such user")
      return none

/-- The numbers and names of users and their groups. -/
def identity : Utility := do
  let options ← options [flag 'u' "user", flag 'g' "group", flag 'G' "groups", flag 'n' "name",
    flag 'r' "real", flag 'z' "zero", flag 'a' "", flag 'Z' "context"] 1 false
  let kinds := ["u", "g", "G"].filter options.has
  if 1 < kinds.length then fail 1 (bytes "cannot print \"only\" of more than one choice")
  if kinds.isEmpty && (options.has "n" || options.has "r") then
    fail 1 (bytes "cannot print only names or real IDs in default format")
  if kinds.isEmpty && options.has "z" then
    fail 1 (bytes "option --zero not permitted in default format")
  for (name, id, group) in ← usersNamed options do
    let isNamed := options.has "n"
    let ender := if options.has "z" then [0] else [lineEnd]
    match kinds.head? with
    | some "u" => put ((if isNamed then bytes name else ofNatural id) ++ ender)
    | some _ => put ((if isNamed then bytes group else ofNatural id) ++ ender)
    | none =>
      let entry := fun (label name : String) ↦
        bytes label ++ ofNatural id ++ bytes "(" ++ bytes name ++ bytes ")"
      putLine (entry "uid=" name ++ entry " gid=" group ++ entry " groups=" group)

/-- The groups of users. -/
def groups : Utility := do
  let options ← options [] 1 false
  for (name, _, group) in ← usersNamed options do
    putLine ((if options.operands.isEmpty then [] else bytes name ++ bytes " : ") ++ bytes group)

/-- The terminal of the input, which is never one. -/
def tty : Utility := do
  let options ← options [flag 's' "silent", long "quiet"] 2 false
  if let some extra := options.operands.head? then misuse 2 (bytes "extra operand " ++ quotedText extra)
  if !(options.has "s" || options.has "quiet") then putLine (bytes "not a tty")
  setStatus 1

/-- What has been written is kept for good, which it always is. -/
def sync : Utility := do
  let options ← options [flag 'd' "data", flag 'f' "file-system"] 1 false
  for path in options.operands do
    if let some fault ← missing? path then
      blame 1 (bytes "error opening " ++ quotedName true path ++ bytes ": " ++ Text.encode fault.reason)

end CodeRepair.Shell
