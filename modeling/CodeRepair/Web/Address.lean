import CodeRepair.Web.Host

/-!
# Web addresses

An address is read as browsers read it: white space around it and line ends in it do not count,
backslashes are slashes, dots in the path are resolved, and what may not stand in the path or the
query is encoded.  Only addresses of the web are read.
-/

namespace CodeRepair.Web

/-- A web address. -/
structure Address where
  isSecure : Bool
  user : Text
  password : Text
  host : Text
  portNumber : Nat
  path : Text
  query : Option Text
  deriving DecidableEq, Repr

namespace Address

/-- A text without the control characters and spaces around it and the tabs and line ends in it. -/
def clean (text : Text) : Text :=
  let isOuter := fun (c : Char) ↦ c.toNat ≤ 0x20
  let trimmed := ((text.dropWhile isOuter).reverse.dropWhile isOuter).reverse
  trimmed.filter fun c ↦ c != '\t' && c != '\n' && c != '\r'

/-- Whether the address is a secure one, and the text after its scheme and the slashes there. -/
def scheme? (text : Text) : Option (Bool × Text) :=
  let name := (text.takeWhile (· != ':')).map Char.toLower
  let rest := (text.dropWhile (· != ':')).drop 1
  let rest := rest.dropWhile fun c ↦ c == '/' || c == '\\'
  if !text.contains ':' then none
  else if name = "http".toList then some (false, rest)
  else if name = "https".toList then some (true, rest)
  else none

/-- Whether the host and what belongs to it end here. -/
def endsAuthority (c : Char) : Bool :=
  c == '/' || c == '\\' || c == '?' || c == '#'

/-- The user, the password, and the text after them, in front of a path. -/
def splitUser (authority : Text) : Text × Text × Text :=
  if authority.contains '@' then
    let host := (authority.reverse.takeWhile (· != '@')).reverse
    let before := authority.take (authority.length - host.length - 1)
    (before.takeWhile (· != ':'), (before.dropWhile (· != ':')).drop 1, host)
  else ([], [], authority)

/-- The host of a text, and the number behind it or the standard one. -/
def hostAndPort? (isSecure : Bool) (text : Text) : Option (Text × Nat) :=
  let standard := if isSecure then 443 else 80
  let bracketed := text.head? == some '['
  let host := if bracketed then text.takeWhile (· != ']') ++ [']'] else text.takeWhile (· != ':')
  let rest := text.drop host.length
  match rest with
  | [] => (host? host).map fun host ↦ (host, standard)
  | ':' :: digits =>
    if digits.isEmpty then (host? host).map fun host ↦ (host, standard)
    else if !digits.all Char.isDigit then none
    else
      let number := digits.foldl (fun n c ↦ 10 * n + (c.toNat - 0x30)) 0
      if 65535 < number then none else (host? host).map fun host ↦ (host, number)
  | _ => none

/-- A segment with its encoded dots decoded. -/
def decodeDots : Text → Text
  | '%' :: '2' :: 'e' :: text => '.' :: decodeDots text
  | '%' :: '2' :: 'E' :: text => '.' :: decodeDots text
  | c :: text => c :: decodeDots text
  | [] => []

/-- The segments of a path with one more, which may be dots. -/
def addSegment (segments : List Text) (isLast : Bool) (segment : Text) : List Text :=
  let dots := decodeDots segment
  if dots = ['.', '.'] then segments.dropLast ++ if isLast then [[]] else []
  else if dots = ['.'] then segments ++ if isLast then [[]] else []
  else segments ++ [percentEncode isEncodedInPath segment]

/-- The segments of a path whose pieces between slashes are given. -/
def segmentsFrom (segments : List Text) : List Text → List Text
  | [] => segments
  | [last] => addSegment segments true last
  | piece :: rest => segmentsFrom (addSegment segments false piece) rest

/-- The path of the text behind the host. -/
def pathOf (text : Text) : Text :=
  let slashed := text.map fun c ↦ if c = '\\' then '/' else c
  '/' :: Text.join ['/'] (segmentsFrom [] (Text.pieces '/' (slashed.drop 1)))

/-- The address of a text. -/
def read? (text : Text) : Option Address := do
  let (isSecure, rest) ← scheme? (clean text)
  let authority := rest.takeWhile fun c ↦ !endsAuthority c
  let rest := rest.dropWhile fun c ↦ !endsAuthority c
  let (user, password, host) := splitUser authority
  let (host, number) ← hostAndPort? isSecure host
  let rest := rest.takeWhile (· != '#')
  let path := rest.takeWhile (· != '?')
  let query := match rest.dropWhile (· != '?') with
    | '?' :: query => some (percentEncode isEncodedInQuery query)
    | _ => none
  return ⟨isSecure, user, password, host, number, pathOf path, query⟩

/-- What a request for an address names: the path and the query. -/
def target (address : Address) : Text :=
  address.path ++ match address.query with
    | some query => '?' :: query
    | none => []

end Address

end CodeRepair.Web
