import CodeRepair.Shell.Utility.Basic

/-!
# Names of files

Utilities that take paths apart or tell where they lead.
-/

namespace CodeRepair.Shell

open Work

/-- A path without the slashes at its end. -/
def dropSlashes (path : Bytes) : Bytes :=
  (path.reverse.dropWhile (· == byte '/')).reverse

/-- The last name of a path. -/
def lastName (path : Bytes) : Bytes :=
  let bare := dropSlashes path
  if bare.isEmpty then path.take 1 else (bare.reverse.takeWhile (· != byte '/')).reverse

/-- A path without its last name. -/
def directoryName (path : Bytes) : Bytes :=
  let bare := dropSlashes path
  let before := (bare.reverse.dropWhile (· != byte '/')).reverse
  if before.isEmpty then (if bare.isEmpty && !path.isEmpty then bytes "/" else bytes ".")
  else if (dropSlashes before).isEmpty then bytes "/" else dropSlashes before

/-- A name without a suffix, which may not be all of it. -/
def dropSuffix (suffix name : Bytes) : Bytes :=
  if suffix != name && suffix.isSuffixOf name then name.take (name.length - suffix.length) else name

/-- The end of the lines that a utility writes. -/
def enderOf (options : Options) : Bytes :=
  if options.has "z" then [0] else [lineEnd]

/-- The last names of paths. -/
def basename : Utility := do
  let options ← options [flag 'a' "multiple", taking 's' "suffix", flag 'z' "zero"] 1 true
  let isMultiple := options.has "a" || options.has "s"
  match options.operands with
  | [] => misuse 1 (bytes "missing operand")
  | path :: rest =>
    if isMultiple then
      for path in options.operands do
        put (dropSuffix ((options.value? "s").getD []) (lastName path) ++ enderOf options)
    else match rest with
      | _ :: extra :: _ => misuse 1 (bytes "extra operand " ++ quotedText extra)
      | _ => put (dropSuffix (rest.head?.getD []) (lastName path) ++ enderOf options)

/-- Paths without their last names. -/
def dirname : Utility := do
  let options ← options [flag 'z' "zero"] 1 true
  if options.operands.isEmpty then misuse 1 (bytes "missing operand")
  for path in options.operands do
    put (directoryName path ++ enderOf options)

/-- The working directory. -/
def printDirectory : Utility := do
  let options ← options [flag 'L' "logical", flag 'P' "physical"] 1 true
  let files := (← get).files
  let physical := Location.path files.workingDirectory
  let logical := ((← read).environment.find? fun entry ↦ entry.1 == "PWD".toList).map Prod.snd
  match options.last? ["L", "P"], logical with
  | some "L", some path =>
    let isSame := (files.canonical (argument path)).toOption = some files.workingDirectory
    putLine (if isSame then path else Text.encode physical)
  | _, _ => putLine (Text.encode physical)

/-- How much of a path may be missing. -/
inductive Strictness
  | everything
  | lastName
  | nothing
  deriving DecidableEq, Repr

/-- Names followed from a location on; what is missing is taken for directories. -/
def followMissing (files : FileSystem) : Nat → Location → List Text → Location
  | 0, here, _ => here
  | _, here, [] => here
  | fuel + 1, here, name :: rest =>
    if name = [] || name = ['.'] then followMissing files fuel here rest
    else if name = ['.', '.'] then followMissing files fuel here.dropLast rest
    else match files.lookup (here ++ [name]) with
      | some (.link target) =>
        followMissing files fuel (if Path.beginsAtRoot target then [] else here)
          (Path.names target ++ rest)
      | _ => followMissing files fuel (here ++ [name]) rest

/-- Where a path leads, if no more of it is missing than may be. -/
def canonicalPath (files : FileSystem) (strictness : Strictness) (path : Path) :
    Except FileFault Location :=
  match strictness with
  | .nothing => files.canonical path
  | .lastName =>
    match files.resolve .content path with
    | .ok (.found location _) => .ok location
    | .ok (.vacant location _) => .ok location
    | .error fault => .error fault
  | .everything =>
    if path.isEmpty then .error .notFound
    else .ok (followMissing files 1000 (if Path.beginsAtRoot path then [] else files.workingDirectory)
      (Path.names path))

/-- A path from one location to another. -/
def relativePath : Location → Location → Path
  | a :: source, b :: target =>
    if a = b then relativePath source target
    else Text.join ['/'] ((a :: source).map (fun _ ↦ "..".toList) ++ b :: target)
  | [], [] => ['.']
  | source, target => Text.join ['/'] (source.map (fun _ ↦ "..".toList) ++ target)

/-- What symbolic links hold, or where paths lead. -/
def readlink : Utility := do
  let options ← options [flag 'f' "canonicalize", flag 'e' "canonicalize-existing",
    flag 'm' "canonicalize-missing", flag 'n' "no-newline", flag 'q' "quiet", flag 's' "silent",
    flag 'v' "verbose", flag 'z' "zero"] 1 false
  if options.operands.isEmpty then misuse 1 (bytes "missing operand")
  let files := (← get).files
  let strictness := (options.last? ["f", "e", "m"]).map fun
    | "f" => Strictness.lastName
    | "e" => .nothing
    | _ => .everything
  let ender := if options.has "n" && options.operands.length = 1 then [] else enderOf options
  for path in options.operands do
    let found := match strictness with
      | some strictness =>
        (canonicalPath files strictness (argument path)).map Location.path
      | none =>
        match files.resolve .entry (argument path) with
        | .ok (.found _ (.link target)) => .ok target
        | .ok (.found _ _) => .error .invalid
        | .ok (.vacant _ _) => .error .notFound
        | .error fault => .error fault
    match found with
    | .ok target => put (Text.encode target ++ ender)
    | .error fault =>
      if options.has "v" then warn (aboutFile path fault)
      setStatus 1

/-- Where paths lead. -/
def realpath : Utility := do
  let options ← options [flag 'e' "canonicalize-existing", flag 'm' "canonicalize-missing",
    flag 'L' "logical", flag 'P' "physical", flag 'q' "quiet", flag 's' "strip",
    ⟨some 's', "no-symlinks", .nothing⟩, flag 'z' "zero", ⟨none, "relative-to", .value⟩,
    ⟨none, "relative-base", .value⟩] 1 false
  if options.operands.isEmpty then misuse 1 (bytes "missing operand")
  let files := (← get).files
  let strictness : Strictness := match options.last? ["e", "m"] with
    | some "e" => .nothing
    | some _ => .everything
    | none => .lastName
  let resolve := fun (path : Bytes) ↦
    if options.has "s" then
      match canonicalPath files strictness (argument path) with
      | .ok _ =>
        let names := Path.names (argument path)
        .ok (names.foldl (fun (here : Location) name ↦
          if name = [] || name = ['.'] then here
          else if name = ['.', '.'] then here.dropLast else here ++ [name])
          (if Path.beginsAtRoot (argument path) then [] else files.workingDirectory))
      | .error fault => .error fault
    else canonicalPath files strictness (argument path)
  let base ← match options.value? "relative-to" with
    | some path =>
      match resolve path with
      | .ok location => pure (some location)
      | .error fault => fail 1 (aboutFile path fault)
    | none => pure none
  for path in options.operands do
    match resolve path with
    | .ok location =>
      let shown := match base with
        | some base => relativePath base location
        | none => location.path
      put (Text.encode shown ++ enderOf options)
    | .error fault =>
      if !options.has "q" then warn (aboutFile path fault)
      setStatus 1

end CodeRepair.Shell
