import CodeRepair.FileSystem.Operation
import CodeRepair.Shell.Glob
import CodeRepair.Shell.Script

/-!
# Expanded words

What a word expands to is a sequence of symbols.  Unquoted results of an expansion are split at the
separators, and the fields that come out of it are patterns for the names of files, except for what
was quoted.  A field that stands for no file stands for itself.
-/

namespace CodeRepair.Shell

/-- A symbol of an expanded word. -/
inductive Symbol
  /-- A byte; a loose one may separate fields. -/
  | byte (b : UInt8) (quoted loose : Bool)
  /-- There is a field here, even if it is empty. -/
  | mark
  /-- The end of a field. -/
  | cut
  deriving DecidableEq, Repr

/-- Bytes as symbols. -/
def symbolsOf (quoted loose : Bool) (content : Bytes) : List Symbol :=
  let symbols := content.map fun b ↦ Symbol.byte b quoted (loose && !quoted)
  if quoted then .mark :: symbols else symbols

/-- The bytes of symbols. -/
def Symbol.markedOf (symbols : List Symbol) : List Marked :=
  symbols.filterMap fun
    | .byte b quoted _ => some (b, quoted)
    | _ => none

/-- The bytes of symbols, without their marks. -/
def Symbol.bytesOf (symbols : List Symbol) : Bytes :=
  (markedOf symbols).map Prod.fst

/-! ## Fields -/

/-- Fields that are being put together. -/
structure Splitting where
  /-- The finished fields, the last one first. -/
  done : List (List Marked) := []
  /-- The bytes of the field that has begun, the last one first. -/
  current : Option (List Marked) := none
  /-- White space has ended a field, and nothing came behind it. -/
  isSpaced : Bool := false

namespace Splitting

/-- The field that has begun is finished. -/
def finish (splitting : Splitting) (isSpaced : Bool) : Splitting :=
  match splitting.current with
  | some field => ⟨field.reverse :: splitting.done, none, isSpaced⟩
  | none => { splitting with isSpaced := splitting.isSpaced && isSpaced }

/-- One more symbol. -/
def add (separators : Bytes) (splitting : Splitting) : Symbol → Splitting
  | .mark => { splitting with current := some (splitting.current.getD []), isSpaced := false }
  | .cut => splitting.finish false
  | .byte b quoted loose =>
    if loose && separators.contains b then
      if b == 0x20 || b == 0x09 || b == 0x0A then
        if splitting.current.isSome then splitting.finish true else splitting
      else if splitting.isSpaced then { splitting with isSpaced := false }
      else { splitting with
        done := (splitting.current.getD []).reverse :: splitting.done, current := none }
    else { splitting with
      current := some ((b, quoted) :: splitting.current.getD []), isSpaced := false }

end Splitting

/-- The fields that symbols are split into. -/
def fieldsOf (separators : Bytes) (symbols : List Symbol) : List (List Marked) :=
  ((symbols.foldl (Splitting.add separators) {}).finish false).done.reverse

/-! ## Names of files -/

/-- The text of an argument. -/
def argument (content : Bytes) : Text :=
  Text.decodeLenient content

/-- Whether there is an entry at a path. -/
def hasEntry (files : FileSystem) (path : Bytes) : Bool :=
  match files.resolve .entry (argument path) with
  | .ok (.found _ _) => true
  | _ => false

/-- The names in a directory that a pattern stands for.  A dot at the beginning has to be meant. -/
def matchingNames (files : FileSystem) (directory : Bytes) (pattern : List Marked) : List Bytes :=
  match files.locate (if directory.isEmpty then ['.'] else argument directory) with
  | .ok (location, .directory) =>
    let names := [bytes ".", bytes ".."] ++
      (files.children location).map fun entry ↦ Text.encode entry.1
    let parts := globOf pattern
    let wantsDot := match parts with
      | .literal b :: _ => b == byte '.'
      | _ => false
    names.filter fun name ↦
      (wantsDot || name.head? != some (byte '.')) && globMatches parts name
  | _ => []

/-- The paths behind a beginning that the parts of a pattern between slashes stand for. -/
def matchingPaths (files : FileSystem) : List (List Marked) → Bytes → List Bytes
  | [], _ => []
  | part :: rest, before =>
    let names := if isPattern part then matchingNames files before part
      else [part.map Prod.fst]
    names.flatMap fun name ↦
      let path := before ++ name
      match rest with
      | [] => if isPattern part || hasEntry files path then [path] else []
      | _ => matchingPaths files rest (path ++ [byte '/'])

/-- One step of cutting a pattern at its slashes, from the back. -/
def cutAtSlash (mark : Marked) : List (List Marked) → List (List Marked)
  | [] => [[mark]]
  | part :: rest =>
    if mark.1 = byte '/' then [] :: part :: rest else (mark :: part) :: rest

/-- The arguments that a field stands for: the files it is a pattern of, or itself. -/
def argumentsOf (files : FileSystem) (globs : Bool) (field : List Marked) : List Bytes :=
  let plain := field.map Prod.fst
  if globs && isPattern field then
    let paths := matchingPaths files (field.foldr cutAtSlash [[]]) []
    if paths.isEmpty then [plain] else paths.mergeSort fun a b ↦ compareBytes a b != .gt
  else [plain]

/-! ## Parts of values -/

/-- A value without the end or the beginning that a pattern stands for. -/
def trimmed (cut : Cut) (pattern : List Marked) (value : Bytes) : Bytes :=
  let parts := globOf pattern
  let lengths := if cut.atEnd then
      (List.range (value.length + 1)).filter fun n ↦
        globMatches parts (value.drop (value.length - n))
    else matchingLengths parts value
  match if cut.longest then lengths.getLast? else lengths.head? with
  | some n => if cut.atEnd then value.take (value.length - n) else value.drop n
  | none => value

/-! ## Home directories -/

/-- The name behind a tilde at the beginning of a text, and the text behind it. -/
def splitTilde? (endsAtColon : Bool) (text : Text) : Option (Text × Text) :=
  match text with
  | '~' :: rest =>
    let isPart := fun (c : Char) ↦ c != '/' && !(endsAtColon && c == ':')
    some (rest.takeWhile isPart, rest.dropWhile isPart)
  | _ => none

/-- The home directory that a tilde with a name stands for. -/
def homeOf (home : Option Bytes) (name : Text) : Option Bytes :=
  if name.isEmpty then home
  else if name = "root".toList then some (bytes "/root")
  else none

end CodeRepair.Shell
