import CodeRepair.Shell.Bytes

/-!
# Patterns of names

A pattern stands for names: a star for any bytes, a question mark for any one, and brackets for one of
several.  What was quoted stands for itself.
-/

namespace CodeRepair.Shell

/-- A byte of a word, and whether it was quoted. -/
abbrev Marked := UInt8 × Bool

/-- What brackets stand for. -/
inductive ClassItem
  | range (first last : UInt8)
  | named (isMember : UInt8 → Bool)

/-- Whether a byte is in an item of brackets. -/
def ClassItem.admits : ClassItem → UInt8 → Bool
  | range first last, b => first ≤ b && b ≤ last
  | named isMember, b => isMember b

/-- Whether an item is a range that ends before it begins. -/
def ClassItem.isReversed : ClassItem → Bool
  | range first last => last < first
  | named _ => false

/-- A part of a pattern. -/
inductive GlobPart
  | literal (b : UInt8)
  | any
  | star
  | oneOf (negated : Bool) (items : List ClassItem)

/-- Whether a byte is printed as something that is not white space. -/
def isGraph (b : UInt8) : Bool := 0x21 ≤ b && b ≤ 0x7E

/-- The named classes of bytes. -/
def namedClasses : List (String × (UInt8 → Bool)) :=
  [("alpha", fun b ↦ isCapital b || isSmall b), ("digit", isDecimal), ("alnum", isWordByte),
    ("upper", isCapital), ("lower", isSmall), ("space", isWhite),
    ("blank", fun b ↦ b == 0x20 || b == 0x09),
    ("punct", fun b ↦ isGraph b && !isWordByte b), ("graph", isGraph),
    ("print", fun b ↦ 0x20 ≤ b && b ≤ 0x7E), ("cntrl", fun b ↦ b < 0x20 || b == 0x7F),
    ("xdigit", fun b ↦ digitOf b < 16)]

/-- The class of a name. -/
def namedClass? (name : Bytes) : Option (UInt8 → Bool) :=
  (namedClasses.find? fun entry ↦ bytes entry.1 == name).map Prod.snd

/-- The class at the beginning of a text behind `[:`, and the text after it. -/
def splitNamedClass? (text : List Marked) : Option ((UInt8 → Bool) × List Marked) :=
  let name := text.takeWhile fun mark ↦ isSmall mark.1
  match text.dropWhile fun mark ↦ isSmall mark.1 with
  | (a, _) :: (b, _) :: rest =>
    if a = byte ':' && b = byte ']' then
      (namedClass? (name.map Prod.fst)).map fun isMember ↦ (isMember, rest)
    else none
  | _ => none

/-- The items up to a closing bracket, and the text after it. -/
def readClassItems? : Nat → List ClassItem → List Marked → Option (List ClassItem × List Marked)
  | 0, _, _ => none
  | _, _, [] => none
  | fuel + 1, items, (b, quoted) :: rest =>
    if b = byte ']' && !quoted && !items.isEmpty then some (items, rest)
    else
      let plain : Option (List ClassItem × List Marked) :=
        match rest with
        | (h, hyphenQuoted) :: (last, lastQuoted) :: after =>
          if h = byte '-' && !hyphenQuoted && !(last = byte ']' && !lastQuoted) then
            readClassItems? fuel (items ++ [.range b last]) after
          else readClassItems? fuel (items ++ [.range b b]) rest
        | _ => readClassItems? fuel (items ++ [.range b b]) rest
      match b == byte '[' && !quoted, rest with
      | true, (colon, false) :: after =>
        if colon = byte ':' then
          match splitNamedClass? after with
          | some (isMember, after) => readClassItems? fuel (items ++ [.named isMember]) after
          | none => plain
        else plain
      | _, _ => plain

/-- The parts of a pattern.  Brackets that are not closed stand for themselves. -/
def globParts : Nat → List Marked → List GlobPart
  | 0, _ => []
  | _, [] => []
  | fuel + 1, (b, quoted) :: rest =>
    if quoted then .literal b :: globParts fuel rest
    else if b = byte '*' then .star :: globParts fuel rest
    else if b = byte '?' then .any :: globParts fuel rest
    else if b = byte '\\' then
      match rest with
      | (next, _) :: after => .literal next :: globParts fuel after
      | [] => [.literal b]
    else if b = byte '[' then
      let (negated, inner) := match rest with
        | (mark, false) :: after =>
          if mark = byte '!' || mark = byte '^' then (true, after) else (false, rest)
        | _ => (false, rest)
      match readClassItems? (inner.length + 1) [] inner with
      | some (items, after) => .oneOf negated items :: globParts fuel after
      | none => .literal b :: globParts fuel rest
    else .literal b :: globParts fuel rest

/-- The pattern of a word. -/
def globOf (word : List Marked) : List GlobPart :=
  globParts (word.length + 1) word

/-- The ends of a text at which something holds, itself among them. -/
def anySuffix (holds : Bytes → Bool) : Bytes → Bool
  | [] => holds []
  | b :: rest => holds (b :: rest) || anySuffix holds rest

/-- Whether a pattern stands for a text. -/
def globMatches : List GlobPart → Bytes → Bool
  | [], text => text.isEmpty
  | .star :: parts, text => anySuffix (globMatches parts) text
  | _ :: _, [] => false
  | .literal a :: parts, b :: text => a == b && globMatches parts text
  | .any :: parts, _ :: text => globMatches parts text
  | .oneOf negated items :: parts, b :: text =>
    (items.any fun item ↦ item.admits b) != negated && globMatches parts text

/-- Whether a word holds something that makes it a pattern. -/
def isPattern (word : List Marked) : Bool :=
  word.any fun mark ↦ !mark.2 && (mark.1 == byte '*' || mark.1 == byte '?' || mark.1 == byte '[')

/-- The lengths of the beginnings of a text that a pattern stands for, the shortest first. -/
def matchingLengths (parts : List GlobPart) (text : Bytes) : List Nat :=
  (List.range (text.length + 1)).filter fun n ↦ globMatches parts (text.take n)

end CodeRepair.Shell
