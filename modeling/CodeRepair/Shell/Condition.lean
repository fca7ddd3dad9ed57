import CodeRepair.Shell.Expansion
import CodeRepair.Shell.Format

/-!
# Conditions

`test` and `[` tell by their status whether a condition on texts, numbers or files holds.  Few
arguments are told apart by their number before any of them is taken for an operator.  The utility
and the shell's own command differ in what they complain about and in some operators.
-/

namespace CodeRepair.Shell

/-- What a path leads to, as far as conditions go. -/
inductive FileKind
  | file (size : Nat)
  | directory
  | device
  | pipe
  deriving DecidableEq, Repr

/-- What conditions know about files. -/
structure View where
  files : FileSystem
  /-- What the descriptors lead to. -/
  descriptors : List (Nat × FileKind) := []

namespace View

/-- The number of the descriptor that a path names. -/
def descriptor? (path : Bytes) : Option Nat :=
  let text := argument path
  match String.ofList text with
  | "/dev/stdin" => some 0
  | "/dev/stdout" => some 1
  | "/dev/stderr" => some 2
  | _ =>
    ((Text.dropHead? "/dev/fd/".toList text).orElse fun _ ↦
      Text.dropHead? "/proc/self/fd/".toList text).bind fun name ↦
        if name.isEmpty || !name.all Char.isDigit then none else (String.ofList name).toNat?

/-- What a path leads to. -/
def kind? (view : View) (path : Bytes) : Option FileKind :=
  match descriptor? path with
  | some n => (view.descriptors.find? fun entry ↦ entry.1 == n).map Prod.snd
  | none =>
    match view.files.locate (argument path) with
    | .ok (_, .file content) => some (.file content.length)
    | .ok (_, .directory) => some .directory
    | .ok (_, .device .terminal) => some .device
    | .ok (_, .device _) => some .device
    | .ok (_, .program _) => some (.file 1)
    | _ => none

/-- Whether a path is one of a symbolic link. -/
def isLink (view : View) (path : Bytes) : Bool :=
  match view.files.resolve .entry (argument path) with
  | .ok (.found _ (.link _)) => true
  | _ => false

/-- Whether what a path leads to can be run or searched. -/
def isRunnable (view : View) (path : Bytes) : Bool :=
  match view.files.locate (argument path) with
  | .ok (_, .directory) => true
  | .ok (_, .program _) => true
  | .ok (location, .file _) => view.files.runnable.contains location
  | _ => false

/-- Whether two paths lead to the same file. -/
def areSame (view : View) (left right : Bytes) : Bool :=
  match view.files.canonical (argument left), view.files.canonical (argument right) with
  | .ok a, .ok b => a == b
  | _, _ => false

end View

namespace Condition

/-- Whether a condition on a file holds. -/
def holdsOfFile (view : View) (operator : Char) (path : Bytes) : Bool :=
  let kind := view.kind? path
  match operator with
  | 'd' => kind == some .directory
  | 'f' => match kind with
    | some (.file _) => true
    | _ => false
  | 's' => match kind with
    | some (.file size) => 0 < size
    | some .directory => true
    | _ => false
  | 'c' => kind == some .device
  | 'p' => kind == some .pipe
  | 'h' | 'L' => view.isLink path || (View.descriptor? path).isSome
  | 'x' => view.isRunnable path
  | 'b' | 'S' | 'u' | 'g' | 'k' => false
  | _ => kind.isSome

/-- The letters of the conditions on one operand. -/
def unaryLetters : List Char := "rwxefdcbpugkstznhLGOSN".toList

/-- The operators on two operands. -/
def binaryOperators (style : Style) : List String :=
  ["=", "!=", "<", ">", "-eq", "-ne", "-lt", "-le", "-gt", "-ge", "-nt", "-ot", "-ef"] ++
    if style = .utility then ["=="] else []

/-- The letter of an operator on one operand. -/
def unary? (argument : Bytes) : Option Char :=
  match argument with
  | [hyphen, b] =>
    let letter := Char.ofNat b.toNat
    if hyphen = byte '-' && unaryLetters.contains letter then some letter else none
  | _ => none

/-- Whether an argument is an operator on two operands. -/
def isBinary (style : Style) (argument : Bytes) : Bool :=
  (binaryOperators style).any fun operator ↦ bytes operator == argument

/-- A text in single quotation marks. -/
def quoted (text : Bytes) : Bytes :=
  byte '\x27' :: text ++ [byte '\x27']

/-- The number that an operand denotes. -/
def operand (style : Style) (text : Bytes) : Except Bytes Int :=
  match integer? text with
  | some n => .ok n
  | none =>
    .error (if style = .shell then bytes "Illegal number: " ++ text
      else bytes "invalid integer " ++ quoted text)

/-- Whether a condition on one operand holds. -/
def holdsOfOne (style : Style) (view : View) (letter : Char) (text : Bytes) : Except Bytes Bool :=
  match letter with
  | 'n' => .ok !text.isEmpty
  | 'z' => .ok text.isEmpty
  | 't' => (operand style text).map fun _ ↦ false
  | letter => .ok (holdsOfFile view letter text)

/-- Whether a condition on two operands holds. -/
def holdsOfTwo (style : Style) (view : View) (operator left right : Bytes) : Except Bytes Bool := do
  let numbers := fun (holds : Int → Int → Bool) ↦ (do
    return holds (← operand style left) (← operand style right) : Except Bytes Bool)
  match String.ofList (argument operator) with
  | "!=" => return left != right
  | "<" => return compareBytes left right == .lt
  | ">" => return compareBytes left right == .gt
  | "-eq" => numbers fun a b ↦ a == b
  | "-ne" => numbers fun a b ↦ a != b
  | "-lt" => numbers fun a b ↦ decide (a < b)
  | "-le" => numbers fun a b ↦ decide (a ≤ b)
  | "-gt" => numbers fun a b ↦ decide (b < a)
  | "-ge" => numbers fun a b ↦ decide (b ≤ a)
  | "-nt" => return (view.kind? left).isSome && (view.kind? right).isNone
  | "-ot" => return (view.kind? left).isNone && (view.kind? right).isSome
  | "-ef" => return view.areSame left right
  | _ => return left == right

/-- A condition that is read from arguments, and the arguments behind it. -/
abbrev Result := Except Bytes (Bool × List Bytes)

/-- Whether the first argument is taken for an operator on one operand, since no operator on two
follows it. -/
def leadsUnary? (style : Style) (arguments : List Bytes) : Option Char :=
  match arguments with
  | [a, _] => unary? a
  | a :: b :: _ :: _ => if isBinary style b then none else unary? a
  | _ => none

/-- The complaint that an operator lacks an operand. -/
def missingOperand (style : Style) (operator : Bytes) : Bytes :=
  if style = .shell then operator ++ bytes ": argument expected"
  else bytes "missing argument after " ++ quoted operator

mutual

/-- Conditions of which one has to hold. -/
def readAny (style : Style) (view : View) : Nat → List Bytes → Result
  | 0, _ => .error (bytes "too many arguments")
  | fuel + 1, arguments => do
    let (first, rest) ← readAll style view fuel arguments
    if rest.head? = some (bytes "-o") then
      let (second, rest) ← readAny style view fuel (rest.drop 1)
      return (first || second, rest)
    else return (first, rest)

/-- Conditions that all have to hold. -/
def readAll (style : Style) (view : View) : Nat → List Bytes → Result
  | 0, _ => .error (bytes "too many arguments")
  | fuel + 1, arguments => do
    let (first, rest) ← readNegated style view fuel arguments
    if rest.head? = some (bytes "-a") then
      let (second, rest) ← readAll style view fuel (rest.drop 1)
      return (first && second, rest)
    else return (first, rest)

/-- A condition that may be negated. -/
def readNegated (style : Style) (view : View) : Nat → List Bytes → Result
  | 0, _ => .error (bytes "too many arguments")
  | fuel + 1, arguments => do
    match arguments with
    | a :: b :: rest =>
      if a = bytes "!" && !(isBinary style b && !rest.isEmpty) then
        let (holds, rest) ← readNegated style view fuel (b :: rest)
        return (!holds, rest)
      else readPrimary style view fuel arguments
    | _ => readPrimary style view fuel arguments

/-- A condition without operators between conditions, except for those in parentheses. -/
def readPrimary (style : Style) (view : View) : Nat → List Bytes → Result
  | 0, _ => .error (bytes "too many arguments")
  | fuel + 1, arguments => do
    match arguments with
    | [] => if style = .shell then return (false, []) else throw (bytes "missing argument")
    | a :: rest =>
      if a = bytes "(" && !rest.isEmpty && !(isBinary style (rest.head?.getD []) && 1 < rest.length) then
        if rest.head? = some (bytes ")") then return (false, rest.drop 1)
        let (holds, rest) ← readAny style view fuel rest
        if rest.head? = some (bytes ")") then return (holds, rest.drop 1)
        else if style = .shell then throw (bytes "closing paren expected")
        else match rest.head? with
          | some next => throw (bytes "\x27)\x27 expected, found " ++ next)
          | none => throw (bytes "\x27)\x27 expected")
      else match leadsUnary? style arguments with
        | some letter =>
          match rest with
          | text :: rest => return (← holdsOfOne style view letter text, rest)
          | [] => throw (missingOperand style a)
        | none =>
          match rest with
          | operator :: right :: rest =>
            if isBinary style operator then
              return (← holdsOfTwo style view operator a right, rest)
            else return (!a.isEmpty, operator :: right :: rest)
          | [operator] =>
            if isBinary style operator then throw (missingOperand style operator)
            else return (!a.isEmpty, rest)
          | [] => return (!a.isEmpty, [])

end

/-- A condition that all arguments make up. -/
def readWhole (style : Style) (view : View) (arguments : List Bytes) : Except Bytes Bool := do
  let (holds, rest) ← readAny style view (4 * arguments.length + 8) arguments
  match rest with
  | [] => return holds
  | next :: _ =>
    if style = .utility then throw (bytes "extra argument " ++ quoted next)
    else
      let last := (arguments[arguments.length - rest.length - 1]?).getD []
      throw (last ++ bytes ": unexpected operator")

/-- Whether the condition holds that so many arguments make up. -/
def holds (style : Style) (view : View) : Nat → List Bytes → Except Bytes Bool
  | _, [] => .ok false
  | 0, _ => .ok false
  | fuel + 1, arguments =>
    match arguments with
    | [a] => .ok !a.isEmpty
    | [a, b] =>
      if a = bytes "!" then .ok b.isEmpty
      else match unary? a with
        | some letter => holdsOfOne style view letter b
        | none =>
          if style = .utility then .error (quoted a ++ bytes ": unary operator expected")
          else readWhole style view arguments
    | [a, b, c] =>
      if isBinary style b then holdsOfTwo style view b a c
      else if a = bytes "!" then (holds style view fuel [b, c]).map (!·)
      else if a = bytes "(" && c = bytes ")" then holds style view fuel [b]
      else if style = .utility && b != bytes "-a" && b != bytes "-o" then
        .error (quoted b ++ bytes ": binary operator expected")
      else readWhole style view arguments
    | [a, b, c, d] =>
      if a = bytes "!" then (holds style view fuel [b, c, d]).map (!·)
      else if a = bytes "(" && d = bytes ")" then holds style view fuel [b, c]
      else readWhole style view arguments
    | _ => readWhole style view arguments

end Condition

/-- The status of `test` or `[` with the given arguments, or a complaint. -/
def condition (style : Style) (view : View) (called : Bytes) (arguments : List Bytes) :
    Except Bytes Nat :=
  let status := fun (arguments : List Bytes) ↦
    (Condition.holds style view 8 arguments).map fun holds ↦ if holds then 0 else 1
  if called = bytes "[" then
    if arguments.getLast? = some (bytes "]") then status arguments.dropLast
    else .error (if style = .shell then bytes "missing ]" else bytes "missing \x27]\x27")
  else status arguments

end CodeRepair.Shell
