import CodeRepair.Shell.Utility.Number
import CodeRepair.Shell.Utility.Plan

/-!
# Utilities that start one program

The program runs with other variables, for a limited time or under other conditions.  `sleep` starts
nothing and only waits.
-/

namespace CodeRepair.Shell

open Work

/-! ## Durations -/

/-- The milliseconds of the longest wait. -/
def longestWait : Nat := Nat.pow 10 15

/-- The milliseconds of a duration: a decimal fraction of seconds or of a greater unit. -/
def duration? (text : Bytes) : Option Nat :=
  if text = bytes "infinity" || text = bytes "inf" then some longestWait
  else
    let units : List (Char × Nat) := [('s', 1), ('m', 60), ('h', 3600), ('d', 86400)]
    let (digits, unit) := match text.getLast?.bind fun b ↦ units.find? fun unit ↦ byte unit.1 == b with
      | some unit => (text.dropLast, unit.2)
      | none => (text, 1)
    match Fraction.read? digits with
    | some fraction =>
      if digits.head? = some (byte '-') then none
      else
        let power := Nat.pow 10 fraction.places
        some (min longestWait ((fraction.numerator.toNat * 1000 * unit + power - 1) / power))
    | none => none

/-- Nothing happens for some durations, one after the other. -/
def sleep : Work Plan := do
  let options ← options [] 1 false
  if options.operands.isEmpty then misuse 1 (bytes "missing operand")
  let wrong := options.operands.filter fun operand ↦ (duration? operand).isNone
  match wrong.getLast? with
  | some last =>
    for operand in wrong.dropLast do
      warn (bytes "invalid time interval " ++ quotedText operand)
    misuse 1 (bytes "invalid time interval " ++ quotedText last)
  | none =>
    return .pause (options.operands.foldl (fun total operand ↦ total + (duration? operand).getD 0) 0)
      (.finish 0)

/-! ## Programs -/

/-- A program takes over, or it is said why it cannot. -/
def becomes (name : Bytes) (lead : String) (start : Start) : Plan :=
  .become start fun fault ↦
    .write true (name ++ bytes ": " ++ bytes lead ++ quotedText (start.words.head?.getD []) ++
      bytes ": " ++ reasonOf fault ++ [lineEnd]) (.finish (Ended.refused fault).status)

/-- Variables with one more, in place of an older one of the same name. -/
def putVariable (name : Text) (value : Bytes) : List (Text × Bytes) → List (Text × Bytes)
  | [] => [(name, value)]
  | entry :: rest =>
    if entry.1 = name then (name, value) :: rest else entry :: putVariable name value rest

/-- A program with other variables, or the variables themselves. -/
def env : Work Plan := do
  let arguments := (← read).arguments
  let renewed := if arguments.head? = some (bytes "-") then bytes "-i" :: arguments.drop 1 else arguments
  let options ← withReader (fun call ↦ { call with arguments := renewed })
    (options [flag 'i' "ignore-environment", flag '0' "null", taking 'u' "unset", taking 'C' "chdir",
      taking 'S' "split-string", flag 'v' "debug"] 125 true)
  let operands := match options.value? "S" with
    | some text => (quotedWords (text.length + 1) none text).1 ++ options.operands
    | none => options.operands
  let known := (← read).environment
  let before := if options.has "i" then [] else known
  let unset := (options.values "u").map argument
  let before := before.filter fun entry ↦ !unset.contains entry.1
  let settings := operands.takeWhile fun operand ↦ operand.contains (byte '=')
  let environment := settings.foldl (fun environment setting ↦
    let name := setting.takeWhile (· != byte '=')
    putVariable (argument name) (setting.drop (name.length + 1)) environment) before
  let ender := if options.has "0" then [0] else [lineEnd]
  match operands.drop settings.length with
  | [] =>
    for entry in environment do
      put (Text.encode entry.1 ++ [byte '='] ++ entry.2 ++ ender)
    return .finish 0
  | words =>
    if options.has "0" then misuse 125 (bytes "cannot specify --null (-0) with command")
    let files := (← get).files
    let directory := (options.value? "C").map argument
    match directory.bind fun path ↦
        match files.locate path with
        | .ok (_, .directory) => none
        | .ok _ => some (path, FileFault.notADirectory)
        | .error fault => some (path, fault) with
    | some (path, fault) =>
      fail 125 (bytes "cannot change directory to " ++ quotedText (Text.encode path) ++ bytes ": " ++
        reasonOf fault)
    | none => return becomes (← called) "" { words, environment := some environment, directory }

/-- The values of variables. -/
def printenv : Utility := do
  let options ← options [flag '0' "null"] 2 true
  let environment := (← read).environment
  let ender := if options.has "0" then [0] else [lineEnd]
  if options.operands.isEmpty then
    for entry in environment do
      put (Text.encode entry.1 ++ [byte '='] ++ entry.2 ++ ender)
  else
    for name in options.operands do
      match environment.find? fun entry ↦ Text.encode entry.1 == name with
      | some entry => put (entry.2 ++ ender)
      | none => setStatus 1

/-- The numbers of the signals that have names. -/
def signalNames : List (String × Nat) :=
  [("HUP", 1), ("INT", 2), ("QUIT", 3), ("ILL", 4), ("TRAP", 5), ("ABRT", 6), ("BUS", 7), ("FPE", 8),
    ("KILL", 9), ("USR1", 10), ("SEGV", 11), ("USR2", 12), ("PIPE", 13), ("ALRM", 14), ("TERM", 15),
    ("STKFLT", 16), ("CHLD", 17), ("CONT", 18), ("STOP", 19), ("TSTP", 20), ("TTIN", 21), ("TTOU", 22),
    ("URG", 23), ("XCPU", 24), ("XFSZ", 25), ("VTALRM", 26), ("PROF", 27), ("WINCH", 28), ("IO", 29),
    ("PWR", 30), ("SYS", 31)]

/-- The signal that a word names, by its number or its name. -/
def signal? (word : Bytes) : Option Nat :=
  if !word.isEmpty && word.all isDecimal then
    let n := number 10 word
    if n ≤ 64 then some n else none
  else
    let name := word.map toCapital
    let name := if (bytes "SIG").isPrefixOf name then name.drop 3 else name
    (signalNames.find? fun entry ↦ bytes entry.1 == name).map Prod.snd

/-- A program that is stopped after a while. -/
def timeout : Work Plan := do
  let options ← options [taking 'k' "kill-after", taking 's' "signal", long "preserve-status",
    flag 'f' "foreground", flag 'v' "verbose"] 125 true
  let signal ← match options.value? "s" with
    | some word =>
      match signal? word with
      | some signal => pure signal
      | none => misuse 125 (quotedText word ++ bytes ": invalid signal")
    | none => pure 15
  match options.operands with
  | duration :: words@(_ :: _) =>
    match duration? duration with
    | none => misuse 125 (bytes "invalid time interval " ++ quotedText duration)
    | some limit =>
      let name ← called
      return .run { words, limit := if limit = 0 then none else some limit } fun
        | .exited status => .finish status
        | .stopped signal => .stop signal
        | .expired =>
          if signal = 9 then .stop signal
          else .finish (if options.has "preserve-status" then 128 + signal else 124)
        | .refused fault =>
          .write true (name ++ bytes ": failed to run command " ++
            quotedText (words.head?.getD []) ++ bytes ": " ++ reasonOf fault ++ [lineEnd])
            (.finish (Ended.refused fault).status)
  | _ =>
    putError (bytes "Try \x27" ++ (← called) ++ bytes " --help\x27 for more information.\n")
    quit 125

/-- A program with less urgency. -/
def nice : Work Plan := do
  let arguments := (← read).arguments
  let isNumber := fun (argument : Bytes) ↦
    argument.head? = some (byte '-') && (argument.drop 1).head?.any isDecimal
  let renewed := arguments.map fun argument ↦
    if isNumber argument then bytes "-n" ++ argument.drop 1 else argument
  let arguments := match arguments with
    | first :: _ => if isNumber first then renewed.take 1 ++ arguments.drop 1 else arguments
    | [] => []
  let options ← withReader (fun call ↦ { call with arguments }) (options [taking 'n' "adjustment"] 125 true)
  match options.operands with
  | [] =>
    putLine (bytes "0")
    return .finish 0
  | words => return becomes (← called) "" { words }

/-- A program that goes on when the terminal is gone. -/
def nohup : Work Plan := do
  let options ← options [] 125 true
  match options.operands with
  | [] => misuse 125 (bytes "missing operand")
  | words => return becomes (← called) "failed to run command " { words }

/-- A program in a session of its own. -/
def setsid : Work Plan := do
  let options ← options [flag 'c' "ctty", flag 'f' "fork", flag 'w' "wait"] 1 true
  match options.operands with
  | [] =>
    warn (bytes "no command specified")
    putError (bytes "Try \x27setsid --help\x27 for more information.\n")
    quit 1
  | words => return becomes (← called) "failed to execute " { words }

/-- A program with other buffers. -/
def stdbuf : Work Plan := do
  let options ← options [taking 'i' "input", taking 'o' "output", taking 'e' "error"] 125 true
  match options.operands with
  | [] => misuse 125 (bytes "missing operand")
  | words => return becomes (← called) "failed to run command " { words }

end CodeRepair.Shell
