import CodeRepair.Shell.Utility.Basic

/-!
# Characters

`tr` replaces characters by those in the same place of another set, removes them, or keeps one of each
run of them.
-/

namespace CodeRepair.Shell

open Work

/-- A part of a set of characters. -/
inductive SetPart
  | range (first last : UInt8)
  | named (name : Bytes) (isMember : UInt8 → Bool)
  /-- A character so many times, or as often as it takes. -/
  | repeated (b : UInt8) (count : Nat)

namespace SetPart

/-- The characters of a part; one repeated as often as it takes fills up a number of places. -/
def members (filling : Nat) : SetPart → Bytes
  | range first last =>
    (List.range (last.toNat + 1 - first.toNat)).map fun n ↦ UInt8.ofNat (first.toNat + n)
  | named _ isMember => ((List.range 256).map UInt8.ofNat).filter isMember
  | repeated b count => List.replicate (if count = 0 then filling else count) b

/-- A character at the beginning of a set, and what stands behind it. -/
def character (text : Bytes) : Option (UInt8 × Bytes) :=
  match text with
  | [] => none
  | b :: rest =>
    if b != byte '\\' then some (b, rest)
    else match rest with
      | [] => some (b, [])
      | next :: after =>
        if isOctal next then
          let digits := (rest.take 3).takeWhile isOctal
          let digits := if number 8 digits < 256 then digits else digits.take 2
          some (UInt8.ofNat (number 8 digits), rest.drop digits.length)
        else
          let known : List (Char × UInt8) := [('a', 7), ('b', 8), ('f', 12), ('n', 10), ('r', 13),
            ('t', 9), ('v', 11)]
          some (((known.find? fun entry ↦ byte entry.1 == next).map Prod.snd).getD next, after)

/-- A text as it is named in complaints about ranges. -/
def shown (b : UInt8) : Bytes :=
  match unprintable? b with
  | some escape => escape
  | none => if b = byte '\\' then bytes "\\\\" else [b]

/-- The parts of a set, or what is wrong with it. -/
def readList : Nat → Bytes → Except Bytes (List SetPart)
  | 0, _ => .ok []
  | _, [] => .ok []
  | fuel + 1, text => do
    let simple : Except Bytes (List SetPart) := do
      match character text with
      | none => return []
      | some (first, rest) =>
        match rest with
        | hyphen :: after =>
          match if hyphen = byte '-' then character after else none with
          | some (last, after) =>
            if last < first then
              throw (bytes "range-endpoints of \x27" ++ shown first ++ byte '-' :: shown last ++
                bytes "\x27 are in reverse collating sequence order")
            return .range first last :: (← readList fuel after)
          | none => return .range first first :: (← readList fuel rest)
        | [] => return [.range first first]
    match text with
    | bracket :: colon :: rest =>
      if bracket = byte '[' && (colon = byte ':' || colon = byte '=') then
        let ends := (List.range rest.length).find? fun n ↦
          rest[n]? = some colon && rest[n + 1]? = some (byte ']') && (0 < n || colon = byte ':')
        match ends with
        | none => simple
        | some n =>
          let inner := rest.take n
          let after := rest.drop (n + 2)
          if colon = byte ':' then
            match namedClass? inner with
            | some isMember => return .named inner isMember :: (← readList fuel after)
            | none =>
              if inner.isEmpty then throw (bytes "missing character class name \x27[::]\x27")
              else throw (bytes "invalid character class " ++ quotedText inner)
          else
            match character inner with
            | some (b, []) => return .range b b :: (← readList fuel after)
            | _ => throw (quotedText inner |>.drop 1 |>.dropLast |> fun inner ↦ inner ++
                bytes ": equivalence class operand must be a single character")
      else if bracket = byte '[' then
        match character (colon :: rest) with
        | some (b, star :: after) =>
          let digits := after.takeWhile isDecimal
          if star = byte '*' && (after.drop digits.length).head? = some (byte ']') then
            let base := if digits.head? = some (byte '0') then 8 else 10
            return .repeated b (number base digits) :: (← readList fuel (after.drop (digits.length + 1)))
          else simple
        | _ => simple
      else simple
    | _ => simple

/-- The characters of a set; one that is repeated as often as it takes makes it so long. -/
def expand (length : Nat) (parts : List SetPart) : Bytes :=
  let others := (parts.flatMap (members 0)).length
  parts.flatMap (members (length - others))

/-- Whether a part repeats a character as often as it takes. -/
def isFilling : SetPart → Bool
  | repeated _ 0 => true
  | _ => false

/-- The name of a class, if the part is one. -/
def className? : SetPart → Option Bytes
  | named name _ => some name
  | _ => none

end SetPart

/-- Whether a byte is in a set that is given as a table. -/
def inTable (table : Array Bool) (b : UInt8) : Bool :=
  (table[b.toNat]?).getD false

/-- The table of a set. -/
def tableOf (members : Bytes) (complements : Bool) : Array Bool :=
  members.foldl (fun table b ↦ table.set! b.toNat (!complements))
    (Array.replicate 256 complements)

/-- Runs of the members of a set shortened to one of them. -/
def squeeze (isMember : UInt8 → Bool) (content : Bytes) : Bytes :=
  (content.foldl (fun (state : List UInt8 × Option UInt8) b ↦
    if state.2 = some b && isMember b then state else (b :: state.1, some b))
    (([], none) : List UInt8 × Option UInt8)).1.reverse

/-- Characters replaced, removed or squeezed. -/
def tr : Utility := do
  let options ← options [⟨some 'c', "complement", .nothing⟩, flag 'C' "", flag 'd' "delete",
    flag 's' "squeeze-repeats", flag 't' "truncate-set1"] 1 true
  let complements := options.has "c" || options.has "C"
  let deletes := options.has "d"
  let squeezes := options.has "s"
  let operands := options.operands
  let wanted := if deletes == squeezes then 2 else 1
  let greatest := if deletes && !squeezes then 1 else 2
  match operands with
  | [] => misuse 1 (bytes "missing operand")
  | [only] =>
    if wanted = 2 then
      misuse 1 (bytes "missing operand after " ++ quotedText only ++
        (if squeezes then bytes "\nTwo strings must be given when both deleting and squeezing repeats."
          else bytes "\nTwo strings must be given when translating."))
  | _ =>
    if greatest < operands.length then
      misuse 1 (bytes "extra operand " ++ quotedText ((operands[greatest]?).getD []) ++
        if greatest = 1 && operands.length = 2 then
          bytes "\nOnly one string may be given when deleting without squeezing repeats." else [])
  let read := fun (set : Bytes) ↦ (do
    if (set.reverse.takeWhile (· == byte '\\')).length % 2 = 1 then
      warn (bytes "warning: an unescaped backslash at end of string is not portable")
    match SetPart.readList (set.length + 1) set with
    | .ok parts => return parts
    | .error message => fail 1 message : Work (List SetPart))
  let first ← read (operands.head?.getD [])
  let second ← read ((operands[1]?).getD [])
  let translates := !deletes && operands.length = 2
  if first.any SetPart.isFilling then
    fail 1 (bytes "the [c*] repeat construct may not appear in string1")
  if 1 < second.countP SetPart.isFilling then
    fail 1 (bytes "only one [c*] repeat construct may appear in string2")
  let set := first.flatMap (SetPart.members 0)
  let listed := if complements then
      (((List.range 256).map UInt8.ofNat).filter fun b ↦ !set.contains b) else set
  let cases := [bytes "lower", bytes "upper"]
  if translates then
    if (second.filterMap SetPart.className?).any fun name ↦ !cases.contains name then
      fail 1 (bytes "when translating, the only character classes that may appear in\nstring2 are \x27upper\x27 and \x27lower\x27")
  else if second.any SetPart.isFilling then
    fail 1 (bytes "the [c*] construct may appear in string2 only when translating")
  let new := SetPart.expand listed.length second
  if translates then
    if new.isEmpty && !options.has "t" then
      fail 1 (bytes "when not truncating set1, string2 must be non-empty")
    let misaligned := second.zipIdx.any fun (part, n) ↦
      match SetPart.className? part with
      | some _ =>
        let place := (SetPart.expand listed.length (second.take n)).length
        complements || !((List.range first.length).any fun m ↦
          ((first[m]?).bind SetPart.className?).any cases.contains &&
            ((first.take m).flatMap (SetPart.members 0)).length == place)
      | none => false
    if misaligned then fail 1 (bytes "misaligned [:upper:] and/or [:lower:] construct")
    if complements && (first.filterMap SetPart.className?).isEmpty == false &&
        1 < new.eraseDups.length then
      fail 1 (bytes "when translating with complemented character classes,\nstring2 must map all characters in the domain to one")
  match ← readInput with
  | .error fault => fail 1 (bytes "read error: " ++ Text.encode fault.reason)
  | .ok content =>
    let table := tableOf set complements
    if deletes then
      let kept := content.filter fun b ↦ !inTable table b
      put (if squeezes then squeeze (inTable (tableOf new false)) kept else kept)
    else if translates then
      let filled := if options.has "t" then new
        else new ++ List.replicate (listed.length - new.length) (new.getLast?.getD 0)
      let map := (listed.zip filled).foldl (fun (map : Array UInt8) pair ↦
        map.set! pair.1.toNat pair.2) (((List.range 256).map UInt8.ofNat).toArray)
      let replaced := content.map fun b ↦ (map[b.toNat]?).getD b
      put (if squeezes then squeeze (inTable (tableOf filled false)) replaced else replaced)
    else put (squeeze (inTable table) content)

end CodeRepair.Shell
