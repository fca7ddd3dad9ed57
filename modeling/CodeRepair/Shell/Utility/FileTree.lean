import CodeRepair.Shell.Utility.Name

/-!
# Trees of files

Utilities that list, make, copy, move and remove files and directories.
-/

namespace CodeRepair.Shell

open Work

/-- The reason of a fault. -/
def reasonOf (fault : FileFault) : Bytes :=
  Text.encode fault.reason

/-- The entry at a path, links not followed. -/
def entryAt (files : FileSystem) (path : Bytes) : Except FileFault (Location × Node) :=
  match files.resolve .entry (argument path) with
  | .ok (.found location node) => .ok (location, node)
  | .ok (.vacant _ _) => .error .notFound
  | .error fault => .error fault

/-- A path with a name behind it. -/
def joinPath (directory name : Bytes) : Bytes :=
  if directory.getLast? = some (byte '/') then directory ++ name else directory ++ byte '/' :: name

/-- A path between quotation marks. -/
def shownPath (path : Bytes) : Bytes :=
  quotedName true path

/-! ## ls -/

/-- What is shown behind a name. -/
def typeMark (options : Options) (files : FileSystem) (location : Location) (node : Node) : Bytes :=
  match node with
  | .directory => if options.has "F" || options.has "p" then bytes "/" else []
  | .link _ => if options.has "F" then bytes "@" else []
  | .program _ => if options.has "F" then bytes "*" else []
  | .file _ => if options.has "F" && files.runnable.contains location then bytes "*" else []
  | .device _ => []

/-- The size by which names are ordered. -/
def shownSize (node : Node) : Nat :=
  match node with
  | .file content => content.length
  | .directory => 4096
  | .link target => (Text.encode target).length
  | _ => 0

/-- Names with what they stand for in the order that options ask for. -/
def orderNames (options : Options) (names : List (Bytes × Location × Node)) :
    List (Bytes × Location × Node) :=
  let sorted := names.mergeSort fun a b ↦ compareBytes a.1 b.1 != .gt
  let sorted := if options.has "S" then
      sorted.mergeSort fun a b ↦ shownSize b.2.2 ≤ shownSize a.2.2 else sorted
  let sorted := if options.has "U" || options.has "f" then names else sorted
  let sorted := if options.has "r" then sorted.reverse else sorted
  if options.has "group-directories-first" then
    sorted.filter (fun entry ↦ entry.2.2 == .directory) ++
      sorted.filter fun entry ↦ entry.2.2 != .directory
  else sorted

/-- The names in one row or one to a line. -/
def writeNames (options : Options) (names : List Bytes) : Bytes :=
  match options.last? ["m", "x", "C", "1"] with
  | some "m" => if names.isEmpty then [] else List.intercalate (bytes ", ") names ++ [lineEnd]
  | some "1" => names.flatMap (· ++ [lineEnd])
  | some _ => if names.isEmpty then [] else List.intercalate (bytes "  ") names ++ [lineEnd]
  | none => names.flatMap (· ++ [lineEnd])

/-- A name as options ask for it. -/
def writeName (options : Options) (files : FileSystem) (entry : Bytes × Location × Node) : Bytes :=
  let name := if options.has "Q" then byte '"' :: entry.1 ++ [byte '"'] else entry.1
  name ++ typeMark options files entry.2.1 entry.2.2

/-- The kind of an entry and who may do what with it. -/
def permissions (files : FileSystem) (location : Location) : Node → Bytes
  | .directory => bytes "drwxr-xr-x"
  | .link _ => bytes "lrwxrwxrwx"
  | .device _ => bytes "crw-rw-rw-"
  | .program _ => bytes "-rwxr-xr-x"
  | .file _ => bytes (if files.runnable.contains location then "-rwxr-xr-x" else "-rw-r--r--")

/-- How many entries name what is at a place. -/
def linkCount (files : FileSystem) (location : Location) : Node → Nat
  | .directory => 2 + ((files.children location).filter fun entry ↦ entry.2 == .directory).length
  | _ => 1

/-- How much room an entry takes, in kibibytes. -/
def roomOf : Node → Nat
  | .directory => 4
  | .file content => (content.length + 4095) / 4096 * 4
  | .program _ => 4
  | _ => 0

/-- Names in the order in which they are shown, each on a line with what is known about it. -/
def longLines (options : Options) (files : FileSystem) (entries : List (Bytes × Location × Node)) :
    List Bytes :=
  let columns := entries.map fun entry ↦
    (ofNatural (linkCount files entry.2.1 entry.2.2), ofNatural (shownSize entry.2.2))
  let width := fun (texts : List Bytes) ↦ texts.foldl (fun width text ↦ max width text.length) 0
  let counts := width (columns.map Prod.fst)
  let sizes := width (columns.map Prod.snd)
  (entries.zip columns).map fun (entry, count, size) ↦
    permissions files entry.2.1 entry.2.2 ++ bytes " " ++ padLeft counts (byte ' ') count ++
      (if options.has "g" then [] else bytes " root") ++
      (if options.has "G" || options.has "o" then [] else bytes " root") ++ bytes " " ++
      padLeft sizes (byte ' ') size ++ bytes " Jan  1 00:00 " ++ writeName options files entry ++
      match entry.2.2 with
      | .link target => bytes " -> " ++ Text.encode target
      | _ => []

/-- Whether each name is on a line with what is known about it. -/
def isLong (options : Options) : Bool :=
  match options.last? ["l", "g", "o", "n", "m", "x", "C", "1"] with
  | some "m" | some "x" | some "C" => false
  | _ => ["l", "g", "o", "n"].any options.has

/-- Names as options ask for them. -/
def shownNames (options : Options) (files : FileSystem) (entries : List (Bytes × Location × Node)) : Bytes :=
  if isLong options then (longLines options files entries).flatMap (· ++ [lineEnd])
  else writeNames options (entries.map (writeName options files))

/-- The names in a directory. -/
def namesIn (options : Options) (files : FileSystem) (directory : Location) :
    List (Bytes × Location × Node) :=
  let all := options.has "a" || options.has "f"
  let own : List (Bytes × Location × Node) := if all then
      [(bytes ".", directory, .directory), (bytes "..", directory.dropLast, .directory)] else []
  let inside := (files.children directory).filterMap fun entry ↦
    if entry.1.head? = some '.' && !all && !options.has "A" then none
    else some (Text.encode entry.1, directory ++ [entry.1], entry.2)
  orderNames options (own ++ inside)

/-- Directories listed one after the other, those in them among them if asked for. -/
def listDirectories (options : Options) (files : FileSystem) (headings : Bool) :
    Nat → Bool → List (Bytes × Location) → List Bytes
  | 0, _, _ => []
  | _, _, [] => []
  | fuel + 1, isFirst, (path, location) :: rest =>
    let names := namesIn options files location
    let heading := if headings then (if isFirst then [] else [lineEnd]) ++ path ++ bytes ":\n" else []
    let inner := if options.has "R" then
        names.filterMap fun entry ↦
          if entry.2.2 == .directory && entry.1 != bytes "." && entry.1 != bytes ".." then
            some (joinPath path entry.1, entry.2.1)
          else none
      else []
    let total := if isLong options || options.has "s" then
        bytes "total " ++ ofNatural (names.foldl (fun total entry ↦ total + roomOf entry.2.2) 0) ++ [lineEnd]
      else []
    (heading ++ total ++ shownNames options files names) ::
      listDirectories options files headings fuel false (inner ++ rest)

/-- The names of files and the names in directories. -/
def ls : Utility := do
  let options ← options [flag 'a' "all", flag 'A' "almost-all", flag 'd' "directory", flag 'f' "",
    flag 'F' "classify", flag 'g' "", flag 'G' "no-group", flag 'h' "human-readable", flag 'i' "inode",
    flag 'k' "kibibytes", flag 'l' "", flag 'L' "dereference", flag 'H' "", flag 'm' "", flag 'n' "", flag 'N' "literal",
    flag 'o' "", flag 'p' "", flag 'q' "hide-control-chars", flag 'Q' "quote-name", flag 'r' "reverse",
    flag 'R' "recursive", flag 's' "size", flag 'S' "", flag 't' "", flag 'u' "", flag 'U' "", flag 'v' "",
    flag 'x' "", flag 'X' "", flag 'C' "", flag '1' "", flag 'c' "", ⟨none, "color", .perhaps⟩,
    ⟨none, "sort", .value⟩, ⟨none, "time", .value⟩, ⟨none, "format", .value⟩,
    long "group-directories-first", ⟨some 'I', "ignore", .value⟩, ⟨some 'w', "width", .value⟩] 2 false
  let files := (← get).files
  let paths := if options.operands.isEmpty then [bytes "."] else options.operands
  let found ← paths.filterMapM fun path ↦ do
    let followed := files.locate (argument path)
    let entry := match followed with
      | .ok (location, .directory) =>
        if options.has "d" then entryAt files path else .ok (location, .directory)
      | .ok (location, node) =>
        if options.has "L" then .ok (location, node) else entryAt files path
      | .error fault =>
        match entryAt files path with
        | .ok entry => if path.getLast? = some (byte '/') then .error fault else .ok entry
        | .error _ => .error fault
    match entry with
    | .ok (location, node) => return some (path, location, node)
    | .error fault =>
      blame 2 (bytes "cannot access " ++ shownPath path ++ bytes ": " ++ reasonOf fault)
      return none
  let isListed := fun (entry : Bytes × Location × Node) ↦ entry.2.2 == .directory && !options.has "d"
  let plain := orderNames options (found.filter fun entry ↦ !isListed entry)
  let directories := orderNames options (found.filter isListed)
  put (shownNames options files plain)
  let headings := 1 < paths.length || options.has "R"
  put (listDirectories options files headings (files.nodes.length + directories.length + 1)
    plain.isEmpty (directories.map fun entry ↦ (entry.1, entry.2.1))).flatten

/-! ## mkdir, rmdir, touch -/

/-- The path of each directory on the way to a path, the first one first. -/
def pathsTo (path : Bytes) : List Bytes :=
  (List.range (path.length + 1)).filterMap fun n ↦
    let isEnd := n = path.length || (path[n]? = some (byte '/') && path[n - 1]? != some (byte '/'))
    if 0 < n && isEnd && path[n - 1]? != some (byte '/') then some (path.take n) else none

/-- Directories made. -/
def mkdir : Utility := do
  let options ← options [flag 'p' "parents", taking 'm' "mode", flag 'v' "verbose"] 1 false
  if options.operands.isEmpty then misuse 1 (bytes "missing operand")
  let name ← called
  let made := fun (path : Bytes) ↦ (do
    if options.has "v" then putLine (name ++ bytes ": created directory " ++ shownPath path) : Work Unit)
  let refuse := fun (path : Bytes) (fault : FileFault) ↦
    (blame 1 (bytes "cannot create directory " ++ shownPath path ++ bytes ": " ++ reasonOf fault) :
      Work Unit)
  for path in options.operands do
    if options.has "p" && !path.isEmpty then
      let _ ← (pathsTo path).foldlM (fun (goesOn : Bool) part ↦ do
        if !goesOn then return false
        match ← change fun files ↦ files.makeDirectory (argument part) with
        | none =>
          made part
          return true
        | some fault =>
          if fault = .alreadyExists && (← get).files.isDirectory (argument part) then return true
          let isLast := part.length = (dropSlashes path).length
          refuse part (if fault = .alreadyExists && !isLast then .notADirectory else fault)
          return false) true
    else
      match ← change fun files ↦ files.makeDirectory (argument path) with
      | none => made path
      | some fault => refuse path fault

/-- Whether nothing is in a directory. -/
def isEmptyDirectory (files : FileSystem) (location : Location) : Bool :=
  (files.children location).isEmpty

/-- A directory removed if nothing is in it. -/
def removeDirectory (files : FileSystem) (path : Bytes) : Except FileFault FileSystem :=
  if lastName path = bytes "." then .error .invalid
  else match entryAt files path with
    | .ok (location, .directory) =>
      if isEmptyDirectory files location then .ok (files.erase location) else .error .notEmpty
    | .ok _ => .error .notADirectory
    | .error fault => .error fault

/-- Directories removed if nothing is in them. -/
def rmdir : Utility := do
  let options ← options [flag 'p' "parents", flag 'v' "verbose",
    long "ignore-fail-on-non-empty"] 1 false
  if options.operands.isEmpty then misuse 1 (bytes "missing operand")
  let name ← called
  for path in options.operands do
    let parts := if options.has "p" then (pathsTo path).reverse.filter (!·.isEmpty) else [path]
    let _ ← parts.foldlM (fun (goesOn : Bool) part ↦ do
      if !goesOn then return false
      if options.has "v" then putLine (name ++ bytes ": removing directory, " ++ shownPath part)
      match ← change fun files ↦ removeDirectory files part with
      | none => return true
      | some fault =>
        if !(fault = .notEmpty && options.has "ignore-fail-on-non-empty") then
          blame 1 ((if part = path then bytes "failed to remove " else
            bytes "failed to remove directory ") ++ shownPath part ++ bytes ": " ++ reasonOf fault)
        return false) true

/-- Files made where they are missing. -/
def touch : Utility := do
  let options ← options [flag 'a' "", flag 'c' "no-create", taking 'd' "date", flag 'f' "",
    flag 'h' "no-dereference", flag 'm' "", taking 'r' "reference", taking 't' "",
    ⟨none, "time", .value⟩] 1 false
  if options.operands.isEmpty then misuse 1 (bytes "missing file operand")
  for path in options.operands do
    let files := (← get).files
    if !files.contains (argument path) && !options.has "c" then
      match ← change fun files ↦ files.write (argument path) [] with
      | none => pure ()
      | some .isADirectory =>
        blame 1 (bytes "setting times of " ++ shownPath path ++ bytes ": " ++ reasonOf .notFound)
      | some fault =>
        blame 1 (bytes "cannot touch " ++ shownPath path ++ bytes ": " ++ reasonOf fault)

/-! ## rm -/

/-- What stands below a directory is removed, the deepest first, and then the directory. -/
def removedBelow (files : FileSystem) (path : Bytes) (location : Location) : List (Bytes × Bool) :=
  ((files.listing location).reverse.map fun entry ↦
    (joinPath path (Text.encode entry.1), entry.2 == .directory)) ++ [(path, true)]

/-- Files removed, and directories if asked for. -/
def rm : Utility := do
  let options ← options [flag 'f' "force", flag 'i' "", flag 'I' "", ⟨none, "interactive", .perhaps⟩,
    flag 'r' "recursive", flag 'R' "", flag 'd' "dir", flag 'v' "verbose", long "one-file-system",
    long "no-preserve-root", ⟨none, "preserve-root", .perhaps⟩] 1 false
  let forced := options.has "f"
  let recursive := options.has "r" || options.has "R"
  if options.operands.isEmpty && !forced then misuse 1 (bytes "missing operand")
  for path in options.operands do
    let base := lastName path
    let refuse := fun (fault : FileFault) ↦
      (blame 1 (bytes "cannot remove " ++ shownPath path ++ bytes ": " ++ reasonOf fault) : Work Unit)
    let files := (← get).files
    if recursive && (base = bytes "." || base = bytes "..") then
      blame 1 (bytes "refusing to remove \x27.\x27 or \x27..\x27 directory: skipping " ++
        shownPath path)
    else match entryAt files path with
      | .error fault =>
        if !(forced && (fault = .notFound || fault = .notADirectory)) then refuse fault
      | .ok (location, .directory) =>
        if location.isEmpty && recursive then
          blame 1 (bytes "it is dangerous to operate recursively on \x27/\x27")
          warn (bytes "use --no-preserve-root to override this failsafe")
        else if recursive then
          if options.has "v" then
            for (name, isDirectory) in removedBelow files path location do
              putLine ((if isDirectory then bytes "removed directory " else bytes "removed ") ++
                shownPath name)
          let _ ← change fun files ↦ .ok (files.eraseTree location)
        else if options.has "d" then
          match ← change fun files ↦ removeDirectory files path with
          | none =>
            if options.has "v" then putLine (bytes "removed directory " ++ shownPath path)
          | some fault => refuse fault
        else refuse .isADirectory
      | .ok (location, _) =>
        let _ ← change fun files ↦ .ok (files.erase location)
        if options.has "v" then putLine (bytes "removed " ++ shownPath path)

/-! ## cp, mv, ln -/

/-- The sources and the targets that operands stand for: into a directory, or from one path to another. -/
def targetsOf (options : Options) (hint : String) (missingTarget : Bytes → Bytes) :
    Work (List (Bytes × Bytes)) := do
  let into := fun (directory : Bytes) (sources : List Bytes) ↦
    sources.map fun source ↦ (source, joinPath directory (lastName source))
  match options.value? "t", options.operands with
  | _, [] => misuse 1 (bytes "missing " ++ bytes hint)
  | some directory, sources =>
    if (← get).files.isDirectory (argument directory) then return into directory sources
    else fail 1 (bytes "target directory " ++ shownPath directory ++ bytes ": " ++ reasonOf .notFound)
  | none, [only] => misuse 1 (missingTarget only)
  | none, operands =>
    let target := operands.getLast?.getD []
    let sources := operands.dropLast
    let isDirectory := (← get).files.isDirectory (argument target)
    if sources.length = 1 then
      if isDirectory && !options.has "T" then return into target sources
      else return sources.map fun source ↦ (source, target)
    else if isDirectory then return into target sources
    else
      let fault := match (← get).files.locate (argument target) with
        | .ok _ => FileFault.notADirectory
        | .error fault => fault
      fail 1 (bytes "target " ++ shownPath target ++ bytes ": " ++ reasonOf fault)

/-- The complaint that the last operand is missing. -/
def missingDestination (source : Bytes) : Bytes :=
  bytes "missing destination file operand after " ++ shownPath source

/-- The files with one entry copied. -/
def copyNode (files : FileSystem) (source : Location × Node) (target : Location) : FileSystem :=
  let files := files.put target source.2
  if files.runnable.contains source.1 then { files with runnable := target :: files.runnable } else files

/-- Where a copy goes: to what stands at a path, links followed unless they lead in circles. -/
def copyPlace (files : FileSystem) (target : Path) : Except FileFault Place :=
  match files.resolve .content target with
  | .error .tooManyLinks => files.resolve .entry target
  | place => place

/-- Files copied, and directories if asked for. -/
def cp : Utility := do
  let options ← options [flag 'a' "archive", flag 'b' "", ⟨none, "backup", .perhaps⟩, flag 'd' "",
    flag 'f' "force", flag 'i' "interactive", flag 'H' "", flag 'l' "link", flag 'L' "dereference",
    flag 'n' "no-clobber", flag 'P' "no-dereference", flag 'p' "", ⟨none, "preserve", .perhaps⟩,
    flag 'R' "", flag 'r' "recursive", flag 's' "symbolic-link", taking 'S' "suffix",
    taking 't' "target-directory", flag 'T' "no-target-directory", flag 'u' "update",
    flag 'v' "verbose", flag 'x' "one-file-system", long "parents",
    long "remove-destination"] 1 false
  let recursive := options.has "r" || options.has "R" || options.has "a"
  let keepsLinks := (options.has "P" || options.has "d" || recursive) && !options.has "L"
  let pairs ← targetsOf options "file operand" missingDestination
  for (source, target) in pairs do
    let files := (← get).files
    let found := if keepsLinks then entryAt files source else files.locate (argument source)
    let place := copyPlace files (argument target)
    let done := fun (_ : Unit) ↦ (do
      if options.has "v" then putLine (shownPath source ++ bytes " -> " ++ shownPath target) : Work Unit)
    let same := fun (_ : Unit) ↦
      (blame 1 (shownPath source ++ bytes " and " ++ shownPath target ++ bytes " are the same file") :
        Work Unit)
    match found with
    | .error fault => blame 1 (bytes "cannot stat " ++ shownPath source ++ bytes ": " ++ reasonOf fault)
    | .ok (origin, .directory) =>
      if !recursive then blame 1 (bytes "-r not specified; omitting directory " ++ shownPath source)
      else match place with
        | .error fault =>
          blame 1 (bytes "cannot create directory " ++ shownPath target ++ bytes ": " ++ reasonOf fault)
        | .ok (.found there .directory) =>
          if there = origin then same ()
          else if origin.isPrefixOf there then
            blame 1 (bytes "cannot copy a directory, " ++ shownPath source ++ bytes ", into itself, " ++
              shownPath target)
          else
            let _ ← change fun files ↦ .ok (files.copyTree origin there)
            done ()
        | .ok (.found _ _) =>
          blame 1 (bytes "cannot overwrite non-directory " ++ shownPath target ++ bytes " with directory " ++
            shownPath source)
        | .ok (.vacant there _) =>
          if origin.isPrefixOf there then
            blame 1 (bytes "cannot copy a directory, " ++ shownPath source ++ bytes ", into itself, " ++
              shownPath target)
          else
            let _ ← change fun files ↦ .ok (files.copyTree origin there)
            done ()
    | .ok (origin, node) =>
      match place with
      | .error fault =>
        blame 1 ((if fault = .notADirectory then bytes "cannot stat " else
          bytes "cannot create regular file ") ++ shownPath target ++ bytes ": " ++ reasonOf fault)
      | .ok (.found there existing) =>
        if options.has "n" then pure ()
        else if there = origin then same ()
        else if existing == .directory then
          blame 1 (bytes "cannot overwrite directory " ++ shownPath target ++
            bytes " with non-directory " ++ shownPath source)
        else
          match existing, node with
          | .device _, .file content =>
            match ← change fun files ↦ files.write (argument target) content with
            | none => done ()
            | some fault =>
              blame 1 (bytes "error writing " ++ shownPath target ++ bytes ": " ++ reasonOf fault)
          | _, .device _ =>
            let _ ← change fun files ↦ .ok (files.put there (.file []))
            done ()
          | _, _ =>
            let _ ← change fun files ↦ .ok (copyNode files (origin, node) there)
            done ()
      | .ok (.vacant there slash) =>
        let isDangling := match files.resolve .entry (argument target) with
          | .ok (.found _ (.link _)) => true
          | _ => false
        if slash then
          blame 1 (bytes "cannot create regular file " ++ shownPath target ++ bytes ": Not a directory")
        else if isDangling && !options.has "remove-destination" then
          blame 1 (bytes "not writing through dangling symlink " ++ shownPath target)
        else
          let made : Node := if options.has "s" then .link (argument source) else match node with
            | .device _ => .file []
            | node => node
          let _ ← change fun files ↦ .ok (copyNode files (origin, made) there)
          done ()

/-- Files and directories moved. -/
def mv : Utility := do
  let options ← options [flag 'b' "", ⟨none, "backup", .perhaps⟩, flag 'f' "force",
    flag 'i' "interactive", flag 'n' "no-clobber", taking 'S' "suffix", taking 't' "target-directory",
    flag 'T' "no-target-directory", flag 'u' "update", flag 'v' "verbose",
    long "strip-trailing-slashes"] 1 false
  let pairs ← targetsOf options "file operand" missingDestination
  for (source, target) in pairs do
    let files := (← get).files
    let done := fun (_ : Unit) ↦ (do
      if options.has "v" then
        putLine (bytes "renamed " ++ shownPath source ++ bytes " -> " ++ shownPath target) : Work Unit)
    match entryAt files source with
    | .error fault => blame 1 (bytes "cannot stat " ++ shownPath source ++ bytes ": " ++ reasonOf fault)
    | .ok (origin, node) =>
      let move := fun (there : Location) ↦ (do
        let _ ← change fun files ↦
          let files := if node == .directory then
              (files.copyTree origin there).eraseTree origin
            else (copyNode (files.erase origin) (origin, node) there)
          .ok files
        done () : Work Unit)
      match files.resolve .entry (argument target) with
      | .error fault =>
        blame 1 (bytes "cannot move " ++ shownPath source ++ bytes " to " ++ shownPath target ++
          bytes ": " ++ reasonOf fault)
      | .ok (.vacant there slash) =>
        if slash && node != .directory then
          blame 1 (bytes "cannot move " ++ shownPath source ++ bytes " to " ++ shownPath target ++
            bytes ": Not a directory")
        else if origin.isPrefixOf there then
          blame 1 (bytes "cannot move " ++ shownPath source ++ bytes " to a subdirectory of itself, " ++
            shownPath target)
        else move there
      | .ok (.found there existing) =>
        if options.has "n" then blame 1 (bytes "not replacing " ++ shownPath target)
        else if there = origin then
          blame 1 (shownPath source ++ bytes " and " ++ shownPath target ++ bytes " are the same file")
        else match node == .directory, existing == .directory with
          | true, false =>
            blame 1 (bytes "cannot overwrite non-directory " ++ shownPath target ++ bytes " with directory " ++
              shownPath source)
          | false, true =>
            blame 1 (bytes "cannot overwrite directory " ++ shownPath target ++
              bytes " with non-directory " ++ shownPath source)
          | true, true =>
            if origin.isPrefixOf there then
              blame 1 (bytes "cannot move " ++ shownPath source ++ bytes " to a subdirectory of itself, " ++
                shownPath target)
            else if isEmptyDirectory files there then move there
            else blame 1 (bytes "cannot overwrite " ++ shownPath target ++ bytes ": Directory not empty")
          | false, false => move there

/-- Links made. -/
def ln : Utility := do
  let options ← options [flag 's' "symbolic", flag 'f' "force", flag 'v' "verbose",
    flag 'n' "no-dereference", flag 'T' "no-target-directory", taking 't' "target-directory",
    flag 'r' "relative", flag 'i' "interactive", flag 'b' "", flag 'L' "logical", flag 'P' "physical"]
    1 false
  let isSymbolic := options.has "s"
  let files := (← get).files
  let pairs ← match options.operands with
    | [only] =>
      if (options.value? "t").isSome then targetsOf options "file operand" missingDestination
      else pure [(only, bytes "./" ++ lastName only)]
    | [source, target] =>
      let leadsOn := match entryAt files target with
        | .ok (_, .link _) => options.has "n"
        | _ => false
      if leadsOn then pure [(source, target)]
      else targetsOf options "file operand" missingDestination
    | _ => targetsOf options "file operand" missingDestination
  let kind := if isSymbolic then bytes "symbolic link " else bytes "hard link "
  for (source, target) in pairs do
    let files := (← get).files
    let refuse := fun (fault : FileFault) ↦
      (blame 1 (bytes "failed to create " ++ kind ++ shownPath target ++
        (if isSymbolic || fault = .alreadyExists then [] else bytes " => " ++ shownPath source) ++
        bytes ": " ++ reasonOf fault) : Work Unit)
    let node ← if isSymbolic then
        let path := if options.has "r" then
            match canonicalPath files .lastName (argument source),
                canonicalPath files .everything (argument (directoryName target)) with
            | .ok a, .ok b => relativePath b a
            | _, _ => argument source
          else argument source
        pure (some (Node.link path))
      else match entryAt files source with
        | .error fault =>
          blame 1 (bytes "failed to access " ++ shownPath source ++ bytes ": " ++ reasonOf fault)
          pure none
        | .ok (_, .directory) =>
          blame 1 (namedIn source ++ bytes ": hard link not allowed for directory")
          pure none
        | .ok (_, node) => pure (some node)
    match node with
    | none => pure ()
    | some node =>
      let done := fun (_ : Unit) ↦ (do
        if options.has "v" then
          putLine (shownPath target ++ (if isSymbolic then bytes " -> " else bytes " => ") ++
            shownPath source) : Work Unit)
      if source.isEmpty then refuse .notFound
      else match files.resolve .entry (argument target) with
        | .error fault => refuse fault
        | .ok (.found location existing) =>
          if options.has "f" && existing != .directory then
            if (entryAt files source).toOption.map Prod.fst = some location && !isSymbolic then
              blame 1 (shownPath source ++ bytes " and " ++ shownPath target ++ bytes " are the same file")
            else
              let _ ← change fun files ↦ .ok (files.put location node)
              done ()
          else refuse .alreadyExists
        | .ok (.vacant location slash) =>
          if slash then refuse .notFound
          else
            let _ ← change fun files ↦ .ok (files.put location node)
            done ()

/-! ## link, unlink, stat -/

/-- One more name for a file. -/
def linkFile : Utility := do
  match (← options [] 1 false).operands with
  | [] => misuse 1 (bytes "missing operand")
  | [only] => misuse 1 (bytes "missing operand after " ++ quotedText only)
  | [source, target] =>
    let refuse := fun (fault : FileFault) ↦
      (fail 1 (bytes "cannot create link " ++ shownPath target ++ bytes " to " ++ shownPath source ++
        bytes ": " ++ reasonOf fault) : Work Unit)
    let files := (← get).files
    match entryAt files source, files.resolve .entry (argument target) with
    | .error fault, _ => refuse fault
    | .ok (_, .directory), _ => fail 1 (bytes "cannot create link " ++ shownPath target ++ bytes " to " ++
        shownPath source ++ bytes ": Operation not permitted")
    | _, .error fault => refuse fault
    | _, .ok (.found _ _) => refuse .alreadyExists
    | .ok (_, node), .ok (.vacant location slash) =>
      if slash then refuse .notFound
      else
        let _ ← change fun files ↦ .ok (files.put location node)
  | _ :: _ :: extra :: _ => misuse 1 (bytes "extra operand " ++ quotedText extra)

/-- A name of a file removed. -/
def unlink : Utility := do
  match (← options [] 1 false).operands with
  | [] => misuse 1 (bytes "missing operand")
  | [path] =>
    let refuse := fun (fault : FileFault) ↦
      (fail 1 (bytes "cannot unlink " ++ shownPath path ++ bytes ": " ++ reasonOf fault) : Work Unit)
    match entryAt (← get).files path with
    | .error fault => refuse fault
    | .ok (_, .directory) => refuse .isADirectory
    | .ok (location, _) =>
      let _ ← change fun files ↦ .ok (files.erase location)
  | _ :: extra :: _ => misuse 1 (bytes "extra operand " ++ quotedText extra)

/-- What kind of thing stands at a place, in words. -/
def kindInWords : Node → Bytes
  | .file content => bytes (if content.isEmpty then "regular empty file" else "regular file")
  | .directory => bytes "directory"
  | .link _ => bytes "symbolic link"
  | .device _ => bytes "character special file"
  | .program _ => bytes "regular file"

/-- Permissions as a number: three digits, each of which stands for three letters. -/
def permissionDigits (letters : Bytes) : Bytes :=
  (groupsOf 3 letters.length (letters.drop 1)).map fun group ↦
    byte '0' + UInt8.ofNat (group.foldl (fun n b ↦ 2 * n + if b = byte '-' then 0 else 1) 0)

/-- The bits that tell the kind of a thing from others. -/
def kindBits : Node → Nat
  | .file _ => 0x8000
  | .directory => 0x4000
  | .link _ => 0xA000
  | .device _ => 0x2000
  | .program _ => 0x8000

/-- A property of a thing, by its letter. -/
def propertyOf? (files : FileSystem) (path : Bytes) (location : Location) (node : Node) (letter : UInt8) :
    Option Bytes :=
  let letters := permissions files location node
  match Char.ofNat letter.toNat with
  | '%' => some (bytes "%")
  | 'n' => some path
  | 'N' =>
    some (quotedName true path ++ match node with
      | .link target => bytes " -> " ++ quotedName true (Text.encode target)
      | _ => [])
  | 's' => some (ofNatural (match node with
      | .link target => (Text.encode target).length
      | node => shownSize node))
  | 'F' => some (kindInWords node)
  | 'a' => some (permissionDigits letters)
  | 'A' => some letters
  | 'f' => some (Text.encode (Nat.toDigits 16 (kindBits node + number 8 (permissionDigits letters))))
  | 'h' => some (ofNatural (linkCount files location node))
  | 'u' | 'g' => some (bytes "0")
  | 'U' | 'G' => some (bytes "root")
  | 'b' => some (ofNatural (2 * roomOf node))
  | 'B' => some (bytes "512")
  | 'o' => some (bytes "4096")
  | _ => none

/-- Properties of a thing as a format asks for them. -/
def describeThing (files : FileSystem) (path : Bytes) (location : Location) (node : Node) : Nat → Bytes → Bytes
  | 0, _ => []
  | _, [] => []
  | fuel + 1, b :: rest =>
    if b = byte '%' then
      let flags := rest.takeWhile (bytes "#0-+ ").contains
      let after := rest.drop flags.length
      let digits := after.takeWhile isDecimal
      let width := number 10 digits
      match after.drop digits.length with
      | [] => [b]
      | letter :: after =>
        let text := (propertyOf? files path location node letter).getD (bytes "?")
        (if flags.contains (byte '-') then padRight width (byte ' ') text
        else padLeft width (if flags.contains (byte '0') && text.all isDecimal then byte '0' else byte ' ')
          text) ++ describeThing files path location node fuel after
    else b :: describeThing files path location node fuel rest

/-- Properties of files. -/
def stat : Utility := do
  let options ← options [flag 'L' "dereference", flag 'f' "file-system", taking 'c' "format",
    ⟨none, "printf", .value⟩, flag 't' "terse", ⟨none, "cached", .value⟩] 1 false
  if options.operands.isEmpty then misuse 1 (bytes "missing operand")
  for path in options.operands do
    let files := (← get).files
    match if options.has "L" then files.locate (argument path) else entryAt files path with
    | .error fault => blame 1 (bytes "cannot statx " ++ shownPath path ++ bytes ": " ++ reasonOf fault)
    | .ok (location, node) =>
      let describe := fun (format : Bytes) ↦ describeThing files path location node (format.length + 1) format
      match options.last? ["c", "printf", "t"] with
      | some "c" => putLine (describe ((options.value? "c").getD []))
      | some "printf" =>
        let format := (options.value? "printf").getD []
        put (describe (unescape .utility format.length format).1)
      | some _ => putLine (describe (bytes "%n %s %b %f %u %g"))
      | none =>
        put (describe (bytes "  File: %N\n  Size: %-10s\tBlocks: %-10b IO Block: %-6o %F\n" ++
          bytes "Access: (0%a/%A)  Uid: (    0/    root)   Gid: (    0/    root)\n"))

/-! ## chmod, mktemp -/

/-- Whether files may be run that could or could not be before, by a text that says so. -/
def runnableAfter? (mode : Bytes) (before : Bool) : Option Bool :=
  if !mode.isEmpty && mode.all isOctal then
    some (Nat.land (number 8 mode) 73 != 0)
  else
    (cutAt (byte ',') mode).foldl (fun state clause ↦
      state.bind fun before ↦
        let rest := clause.dropWhile fun b ↦ (bytes "ugoa").contains b
        match rest with
        | operator :: letters =>
          if !(bytes "+-=").contains operator || !letters.all (fun b ↦ (bytes "rwxXstugo").contains b) then
            none
          else
            let runs := letters.contains (byte 'x') || (letters.contains (byte 'X') && before)
            some (if operator = byte '+' then before || runs
              else if operator = byte '-' then before && !runs else runs)
        | [] => none) (some before)

/-- Files that may be run or may not be any more. -/
def chmod : Utility := do
  let isMode := fun (argument : Bytes) ↦
    argument.head? = some (byte '-') && 1 < argument.length &&
      (argument.drop 1).all fun b ↦ (bytes "rwxXst").contains b
  let arguments := (← read).arguments
  let arguments := if (arguments.head?.map isMode).getD false then
      (arguments.head?.map fun mode ↦ byte 'a' :: mode).toList ++ arguments.drop 1 else arguments
  let options ← ReaderT.adapt (fun call : Call ↦ { call with arguments }) <|
    options [flag 'R' "recursive", flag 'v' "verbose", flag 'c' "changes", flag 'f' "silent",
      ⟨none, "reference", .value⟩] 1 false
  match options.operands with
  | [] => misuse 1 (bytes "missing operand")
  | [mode] => misuse 1 (bytes "missing operand after " ++ quotedText mode)
  | mode :: paths =>
    if (runnableAfter? mode false).isNone then misuse 1 (bytes "invalid mode: " ++ quotedText mode)
    for path in paths do
      match (← get).files.locate (argument path) with
      | .error fault =>
        blame 1 (bytes "cannot access " ++ shownPath path ++ bytes ": " ++ reasonOf fault)
      | .ok (location, _) =>
        let _ ← change fun files ↦
          let isRunnable := files.runnable.contains location
          let others := files.runnable.filter (· != location)
          .ok { files with
            runnable := if (runnableAfter? mode isRunnable).getD false then location :: others
              else others }

/-- A new file or directory of which nobody knows the name. -/
def mktemp : Utility := do
  let options ← options [flag 'd' "directory", flag 'u' "dry-run", flag 'q' "quiet",
    taking 'p' "tmpdir", flag 't' "", ⟨none, "suffix", .value⟩] 1 false
  let template := options.operands.head?.getD (bytes "tmp.XXXXXXXXXX")
  let marks := (template.reverse.takeWhile (· == byte 'X')).length
  if marks < 3 then
    fail 1 (bytes "too few X\x27s in template " ++ quotedText template)
  let directory := (options.value? "p").getD (bytes "/tmp")
  let path := if options.operands.isEmpty || options.has "p" || options.has "t" then
      joinPath directory template else template
  let stem := path.take (path.length - marks)
  let files := (← get).files
  let named := fun (n : Nat) ↦ stem ++ padLeft marks (byte 'A') (ofNatural n)
  let path := (((List.range 1000).map named).find? fun path ↦ !hasEntry files path).getD (named 0)
  let fault ← if options.has "u" then pure none
    else change fun files ↦
      if options.has "d" then files.makeDirectory (argument path) else files.write (argument path) []
  match fault with
  | none => putLine path
  | some fault =>
    fail 1 (bytes "failed to create " ++ (if options.has "d" then bytes "directory" else bytes "file") ++
      bytes " via template " ++ quotedText (stem ++ List.replicate marks (byte 'X')) ++ bytes ": " ++
      reasonOf fault)

end CodeRepair.Shell
