import CodeRepair.Shell.Utility.Stream

/-!
# Digests

Digests of contents, and the utilities that write and check them.  A content is filled up to a number
of whole blocks, and each block is mixed into the words that the digest is made of.
-/

namespace CodeRepair.Shell

open Work

namespace Digest

/-- A sum of words. -/
def sum (width : Nat) (words : List Nat) : Nat :=
  words.foldl (· + ·) 0 % Nat.pow 2 width

/-- A word turned to the left. -/
def turnLeft (width n word : Nat) : Nat :=
  (word <<< n) % Nat.pow 2 width ||| word >>> (width - n)

/-- A word turned to the right. -/
def turnRight (width n word : Nat) : Nat :=
  turnLeft width (width - n) word

/-- A word with each bit the other way round. -/
def inverted (width word : Nat) : Nat :=
  Nat.pow 2 width - 1 - word

/-- The bits of one word where a third one has ones, and of another where it has zeros. -/
def chosen (width selector x y : Nat) : Nat :=
  (selector &&& x) ||| (inverted width selector &&& y)

/-- The bits that most of three words have. -/
def majority (x y z : Nat) : Nat :=
  (x &&& y) ^^^ (x &&& z) ^^^ (y &&& z)

/-- The bytes of a number, the most significant first. -/
def bytesOf (count n : Nat) : Bytes :=
  (List.range count).reverse.map fun place ↦ UInt8.ofNat (n >>> (8 * place) % 256)

/-- The number of bytes, of which the most significant is the first. -/
def wordOf (content : Bytes) : Nat :=
  content.foldl (fun n b ↦ 256 * n + b.toNat) 0

/-- A content filled up to whole blocks, the last bytes of which tell its length in bits. -/
def padded (block lengthBytes : Nat) (reversed : Bool) (content : Bytes) : Bytes :=
  let zeros := (block - (content.length + 1 + lengthBytes) % block) % block
  let length := bytesOf lengthBytes (8 * content.length)
  content ++ 0x80 :: (List.replicate zeros 0 ++ if reversed then length.reverse else length)

/-- Words in hexadecimal digits. -/
def hexadecimal (content : Bytes) : Bytes :=
  content.flatMap fun b ↦ padLeft 2 (byte '0') (Text.encode (Nat.toDigits 16 b.toNat))

/-! ## Digests of 128 and 160 bits -/

/-- The constants of the rounds. -/
def roundConstants : Array Nat := #[
    0xD76AA478, 0xE8C7B756, 0x242070DB, 0xC1BDCEEE, 0xF57C0FAF, 0x4787C62A, 0xA8304613, 0xFD469501,
    0x698098D8, 0x8B44F7AF, 0xFFFF5BB1, 0x895CD7BE, 0x6B901122, 0xFD987193, 0xA679438E, 0x49B40821,
    0xF61E2562, 0xC040B340, 0x265E5A51, 0xE9B6C7AA, 0xD62F105D, 0x02441453, 0xD8A1E681, 0xE7D3FBC8,
    0x21E1CDE6, 0xC33707D6, 0xF4D50D87, 0x455A14ED, 0xA9E3E905, 0xFCEFA3F8, 0x676F02D9, 0x8D2A4C8A,
    0xFFFA3942, 0x8771F681, 0x6D9D6122, 0xFDE5380C, 0xA4BEEA44, 0x4BDECFA9, 0xF6BB4B60, 0xBEBFBC70,
    0x289B7EC6, 0xEAA127FA, 0xD4EF3085, 0x04881D05, 0xD9D4D039, 0xE6DB99E5, 0x1FA27CF8, 0xC4AC5665,
    0xF4292244, 0x432AFF97, 0xAB9423A7, 0xFC93A039, 0x655B59C3, 0x8F0CCC92, 0xFFEFF47D, 0x85845DD1,
    0x6FA87E4F, 0xFE2CE6E0, 0xA3014314, 0x4E0811A1, 0xF7537E82, 0xBD3AF235, 0x2AD7D2BB, 0xEB86D391]

/-- How far the words are turned in the rounds. -/
def turns : List Nat := [7, 12, 17, 22, 5, 9, 14, 20, 4, 11, 16, 23, 6, 10, 15, 21]

/-- A block mixed into four words. -/
def mix128 (state : Nat × Nat × Nat × Nat) (block : Bytes) : Nat × Nat × Nat × Nat :=
  let words := ((groupsOf 4 16 block).map fun piece ↦ wordOf piece.reverse).toArray
  let (a, b, c, d) := (List.range 64).foldl (fun (a, b, c, d) n ↦
    let (f, place) :=
      if n < 16 then (chosen 32 b c d, n)
      else if n < 32 then (chosen 32 d b c, (5 * n + 1) % 16)
      else if n < 48 then (b ^^^ c ^^^ d, (3 * n + 5) % 16)
      else (c ^^^ (b ||| inverted 32 d), 7 * n % 16)
    let turned := turnLeft 32 (turns.getD (n / 16 * 4 + n % 4) 0)
      (sum 32 [a, f, roundConstants.getD n 0, words.getD place 0])
    (d, sum 32 [b, turned], b, c)) state
  (sum 32 [a, state.1], sum 32 [b, state.2.1], sum 32 [c, state.2.2.1], sum 32 [d, state.2.2.2])

/-- The digest `md5` of a content. -/
def md5 (content : Bytes) : Bytes :=
  let content := padded 64 8 true content
  let (a, b, c, d) := (groupsOf 64 content.length content).foldl mix128
    (0x67452301, 0xEFCDAB89, 0x98BADCFE, 0x10325476)
  [a, b, c, d].flatMap fun word ↦ (bytesOf 4 word).reverse

/-- A block mixed into five words. -/
def mix160 (state : List Nat) (block : Bytes) : List Nat :=
  let first := ((groupsOf 4 16 block).map wordOf).toArray
  let words := (List.range 64).foldl (fun (words : Array Nat) n ↦
    let back := fun (places : Nat) ↦ words.getD (n + 16 - places) 0
    words.push (turnLeft 32 1 (back 3 ^^^ back 8 ^^^ back 14 ^^^ back 16))) first
  let step := fun (state : List Nat) (n : Nat) ↦
    match state with
    | [a, b, c, d, e] =>
      let (f, constant) :=
        if n < 20 then (chosen 32 b c d, 0x5A827999)
        else if n < 40 then (b ^^^ c ^^^ d, 0x6ED9EBA1)
        else if n < 60 then (majority b c d, 0x8F1BBCDC)
        else (b ^^^ c ^^^ d, 0xCA62C1D6)
      [sum 32 [turnLeft 32 5 a, f, e, constant, words.getD n 0], a, turnLeft 32 30 b, c, d]
    | other => other
  (state.zip ((List.range 80).foldl step state)).map fun (x, y) ↦ sum 32 [x, y]

/-- The digest `sha1` of a content. -/
def sha1 (content : Bytes) : Bytes :=
  let content := padded 64 8 false content
  ((groupsOf 64 content.length content).foldl mix160
    [0x67452301, 0xEFCDAB89, 0x98BADCFE, 0x10325476, 0xC3D2E1F0]).flatMap (bytesOf 4)

/-! ## Longer digests -/

/-- The first primes. -/
def primes : List Nat :=
  (List.range 410).filter fun n ↦
    2 ≤ n && (List.range n).all fun d ↦ d < 2 || n < d * d || n % d != 0

/-- The greatest number whose power does not exceed another one. -/
def rootOf (power n : Nat) : Nat → Nat → Nat
  | 0, least => least
  | bit + 1, least =>
    let next := least + Nat.pow 2 bit
    rootOf power n bit (if Nat.pow next power ≤ n then next else least)

/-- The first bits behind the point of the root of a number. -/
def rootBits (power bits n : Nat) : Nat :=
  rootOf power (n * Nat.pow 2 (power * bits)) (bits + 9) 0 % Nat.pow 2 bits

/-- The constants of the rounds for a width of words. -/
def longConstants (width : Nat) : Array Nat :=
  ((primes.take 80).map (rootBits 3 width)).toArray

/-- The constants of the rounds for words of 32 bits. -/
def constants32 : Array Nat := longConstants 32

/-- The constants of the rounds for words of 64 bits. -/
def constants64 : Array Nat := longConstants 64

/-- A block mixed into eight words of a width. -/
def mixLong (width : Nat) (state : List Nat) (block : Bytes) : List Nat :=
  let isShort := width = 32
  let size := width / 8
  let turned := fun (places : List Nat) (word : Nat) ↦
    places.foldl (fun x n ↦ x ^^^ turnRight width n word) 0
  let spread0 := fun (x : Nat) ↦
    if isShort then turned [7, 18] x ^^^ x >>> 3 else turned [1, 8] x ^^^ x >>> 7
  let spread1 := fun (x : Nat) ↦
    if isShort then turned [17, 19] x ^^^ x >>> 10 else turned [19, 61] x ^^^ x >>> 6
  let rounds := if isShort then 64 else 80
  let constants := if isShort then constants32 else constants64
  let first := ((groupsOf size 16 block).map wordOf).toArray
  let words := (List.range (rounds - 16)).foldl (fun (words : Array Nat) n ↦
    let back := fun (places : Nat) ↦ words.getD (n + 16 - places) 0
    words.push (sum width [spread1 (back 2), back 7, spread0 (back 15), back 16])) first
  let step := fun (state : List Nat) (n : Nat) ↦
    match state with
    | [a, b, c, d, e, f, g, h] =>
      let x := sum width [h, turned (if isShort then [6, 11, 25] else [14, 18, 41]) e, chosen width e f g,
        constants.getD n 0, words.getD n 0]
      let y := sum width [turned (if isShort then [2, 13, 22] else [28, 34, 39]) a, majority a b c]
      [sum width [x, y], a, b, c, sum width [d, x], e, f, g]
    | other => other
  (state.zip ((List.range rounds).foldl step state)).map fun (x, y) ↦ sum width [x, y]

/-- A digest made of words of a width, of which so many bytes are kept. -/
def long (width size : Nat) (start : List Nat) (content : Bytes) : Bytes :=
  let block := 2 * width
  let content := padded block (width / 4) false content
  (((groupsOf block content.length content).foldl (mixLong width) start).flatMap
    (bytesOf (width / 8))).take size

/-- The digest `sha224` of a content. -/
def sha224 (content : Bytes) : Bytes :=
  long 32 28 (((primes.drop 8).take 8).map fun n ↦ rootBits 2 64 n % Nat.pow 2 32) content

/-- The digest `sha256` of a content. -/
def sha256 (content : Bytes) : Bytes :=
  long 32 32 ((primes.take 8).map (rootBits 2 32)) content

/-- The digest `sha384` of a content. -/
def sha384 (content : Bytes) : Bytes :=
  long 64 48 (((primes.drop 8).take 8).map (rootBits 2 64)) content

/-- The digest `sha512` of a content. -/
def sha512 (content : Bytes) : Bytes :=
  long 64 64 ((primes.take 8).map (rootBits 2 64)) content

/-- A content's remainder with respect to a polynomial, its length included. -/
def cyclic (content : Bytes) : Nat :=
  let shift := fun (n : Nat) (b : UInt8) ↦
    (List.range 8).foldl (fun (n : Nat) place ↦
      let bit := (n >>> 31 ^^^ b.toNat >>> (7 - place)) % 2
      (n <<< 1) % Nat.pow 2 32 ^^^ (if bit = 1 then 0x04C11DB7 else 0)) n
  let length := (bytesOf 8 content.length).dropWhile (· == 0)
  inverted 32 ((content ++ length.reverse).foldl shift 0)

end Digest

/-! ## The utilities -/

/-- A name behind a digest, with its line ends and backslashes escaped, and whether there are any. -/
def escapedName (name : Bytes) : Bytes × Bool :=
  (name.flatMap fun b ↦
    if b = lineEnd then bytes "\\n" else if b = byte '\\' then bytes "\\\\" else [b],
    name.contains lineEnd || name.contains (byte '\\'))

/-- The digest and the name in a line, if it has the form of one. -/
def digestLine? (label : Bytes) (length : Nat) (line : Bytes) : Option (Bytes × Bytes) :=
  let isDigest := fun (text : Bytes) ↦ text.length == length && text.all fun b ↦ digitOf b < 16
  let escaped := line.head? = some (byte '\\')
  let line := if escaped then line.drop 1 else line
  let nameOf := fun (name : Bytes) ↦ if escaped then (unescape .shell name.length name).1 else name
  let head := label ++ bytes " ("
  if head.isPrefixOf line then
    let rest := line.drop head.length
    let name := rest.take (rest.length - length - 4)
    let digest := rest.drop (rest.length - length)
    if (bytes ") = ").isPrefixOf (rest.drop name.length) && isDigest digest then some (digest, nameOf name)
    else none
  else
    let digest := line.take length
    let rest := line.drop length
    if isDigest digest && rest.head? = some (byte ' ') && 2 < rest.length &&
        (rest[1]? = some (byte ' ') || rest[1]? = some (byte '*')) then
      some (digest, nameOf (rest.drop 2))
    else none

/-- A number of things in a warning. -/
def counted (n : Nat) (one many : String) : Bytes :=
  ofNatural n ++ bytes (if n = 1 then one else many)

/-- The outcomes of a check of listed digests. -/
structure DigestCounts where
  good : Nat := 0
  failed : Nat := 0
  /-- The listed files that could not be read. -/
  unread : Nat := 0
  /-- The files that were passed over because they are not there. -/
  absent : Nat := 0
  /-- The lines that do not have the form of one. -/
  malformed : Nat := 0

/-- The digest that a line lists is checked. -/
def checkDigest (options : Options) (digest : Bytes → Bytes) (expected name : Bytes)
    (counts : DigestCounts) : Work DigestCounts := do
  let (shown, isEscaped) := escapedName name
  let tell := fun (isFault : Bool) (outcome : String) ↦ do
    if !options.has "status" && (isFault || !options.has "quiet") then
      putLine ((if isEscaped then bytes "\\" else []) ++ shown ++ bytes ": " ++ bytes outcome)
  match ← readPath name with
  | .error fault =>
    if options.has "ignore-missing" && fault = .notFound then
      return { counts with absent := counts.absent + 1 }
    else
      warn (aboutFile name fault)
      tell true "FAILED open or read"
      return { counts with unread := counts.unread + 1 }
  | .ok content =>
    if Digest.hexadecimal (digest content) = expected.map toSmall then
      tell false "OK"
      return { counts with good := counts.good + 1 }
    else
      tell true "FAILED"
      return { counts with failed := counts.failed + 1 }

/-- The digests that a source lists are checked. -/
def checkDigests (options : Options) (label : String) (length : Nat) (digest : Bytes → Bytes)
    (source : Bytes) : Work Unit := do
  match ← readPath source with
  | .error fault => blame 1 (aboutFile source fault)
  | .ok content =>
    let shown := namedIn (headingName source)
    let mut counts : DigestCounts := {}
    let mut number := 0
    for line in linesOf content do
      number := number + 1
      if line.head? != some (byte '#') then
        match digestLine? (bytes label) length (chomp line) with
        | some (expected, name) =>
          if source = bytes "-" && name = bytes "-" then
            counts := { counts with malformed := counts.malformed + 1 }
          else counts ← checkDigest options digest expected name counts
        | none =>
          counts := { counts with malformed := counts.malformed + 1 }
          if options.has "w" then
            warn (shown ++ bytes ": " ++ ofNatural number ++ bytes ": improperly formatted " ++
              bytes label ++ bytes " checksum line")
    if counts.good + counts.failed + counts.unread + counts.absent = 0 then
      blame 1 (shown ++ bytes ": no properly formatted checksum lines found")
    else
      if !options.has "status" then
        for (n, one, many) in [
            (counts.malformed, " line is improperly formatted", " lines are improperly formatted"),
            (counts.unread, " listed file could not be read", " listed files could not be read"),
            (counts.failed, " computed checksum did NOT match", " computed checksums did NOT match")] do
          if 0 < n then warn (bytes "WARNING: " ++ counted n one many)
        if counts.good + counts.failed + counts.unread = 0 then warn (shown ++ bytes ": no file was verified")
      if 0 < counts.unread + counts.failed || counts.good = 0 ||
          (options.has "strict" && 0 < counts.malformed) then
        setStatus 1

/-- Why some options do not go together. -/
def digestMisuse? (options : Options) : Option Bytes :=
  let checks := options.has "c"
  let isText := options.last? ["b", "t"] = some "t"
  if options.has "tag" && isText then some (bytes "--tag does not support --text mode")
  else if checks && options.has "z" then
    some (bytes "the --zero option is not supported when verifying checksums")
  else if checks && options.has "tag" then
    some (bytes "the --tag option is meaningless when verifying checksums")
  else if checks && (options.has "b" || options.has "t") then
    some (bytes "the --binary and --text options are meaningless when verifying checksums")
  else if checks then none
  else
    let only := [("ignore-missing", "ignore-missing"), ("status", "status"), ("w", "warn"),
      ("quiet", "quiet"), ("strict", "strict")]
    (only.find? fun entry ↦ options.has entry.1).map fun entry ↦
      bytes "the --" ++ bytes entry.2 ++ bytes " option is meaningful only when verifying checksums"

/-- Digests of the sources, or a check of digests that they list. -/
def digestUtility (label : String) (length : Nat) (digest : Bytes → Bytes) : Utility := do
  modify fun effect ↦ { effect with isPrompt := true }
  let options ← options [flag 'b' "binary", flag 'c' "check", flag 't' "text", long "tag", flag 'z' "zero",
    long "ignore-missing", long "quiet", long "status", long "strict", flag 'w' "warn"] 1 false
  if let some message := digestMisuse? options then misuse 1 message
  for source in sourceNames options do
    if options.has "c" then checkDigests options label length digest source
    else
      match ← readPath source with
      | .error fault => blame 1 (aboutFile source fault)
      | .ok content =>
        let text := Digest.hexadecimal (digest content)
        let (name, isEscaped) := if options.has "z" then (source, false) else escapedName source
        put ((if isEscaped then bytes "\\" else []) ++
          (if options.has "tag" then bytes label ++ bytes " (" ++ name ++ bytes ") = " ++ text
          else text ++ (if options.last? ["b", "t"] = some "b" then bytes " *" else bytes "  ") ++ name) ++
          (if options.has "z" then [0] else [lineEnd]))

/-- Digests of 128 bits. -/
def md5sum : Utility := digestUtility "MD5" 32 Digest.md5

/-- Digests of 160 bits. -/
def sha1sum : Utility := digestUtility "SHA1" 40 Digest.sha1

/-- Digests of 224 bits. -/
def sha224sum : Utility := digestUtility "SHA224" 56 Digest.sha224

/-- Digests of 256 bits. -/
def sha256sum : Utility := digestUtility "SHA256" 64 Digest.sha256

/-- Digests of 384 bits. -/
def sha384sum : Utility := digestUtility "SHA384" 96 Digest.sha384

/-- Digests of 512 bits. -/
def sha512sum : Utility := digestUtility "SHA512" 128 Digest.sha512

/-- A check number and the length of each source. -/
def cksum : Utility := do
  let options ← options [] 1 false
  for source in sourceNames options do
    match ← readPath source with
    | .error fault => blame 1 (aboutFile source fault)
    | .ok content =>
      putLine (ofNatural (Digest.cyclic content) ++ byte ' ' :: ofNatural content.length ++
        if options.operands.isEmpty then [] else byte ' ' :: source)

end CodeRepair.Shell
