import CodeRepair.Web.Percent

/-!
# Hosts

A host is a name, or a number with up to four parts that may be written in octal or hexadecimal
digits and is brought to four decimal ones.  A host in brackets is kept as it is written.
-/

namespace CodeRepair.Web

/-- The characters that stand in no host. -/
def isForbidden (c : Char) : Bool :=
  c.toNat ≤ 0x20 || c.toNat == 0x7F || "#/:<>?@[\\]^|%".toList.contains c

/-- The number of a part of a host. -/
def hostNumber? (part : Text) : Option Nat :=
  let (base, digits) := match part with
    | '0' :: 'x' :: digits => (16, digits)
    | '0' :: d :: digits => (8, d :: digits)
    | digits => (10, digits)
  if part.isEmpty then none
  else digits.foldl (fun n c ↦ do
    let value ← Json.hexValue? c
    if value < base then return base * (← n) + value else none) (some 0)

/-- The parts of a host, without an empty one at the end. -/
def hostParts (host : Text) : List Text :=
  let parts := Text.pieces '.' host
  if 1 < parts.length && parts.getLast? = some [] then parts.dropLast else parts

/-- Whether a host is meant as a number. -/
def endsInNumber (host : Text) : Bool :=
  match (hostParts host).getLast? with
  | some part => (!part.isEmpty && part.all Char.isDigit) || (hostNumber? part).isSome
  | none => false

/-- The host of four decimal parts that a number stands for. -/
def dotted (n : Nat) : Text :=
  Text.join ['.']
    ([n / Nat.pow 256 3 % 256, n / Nat.pow 256 2 % 256, n / 256 % 256, n % 256].map Text.ofNat)

/-- The host of a number of up to four parts; the last part fills what the others leave. -/
def numberHost? (host : Text) : Option Text := do
  let numbers ← (hostParts host).mapM hostNumber?
  let last ← numbers.getLast?
  let others := numbers.dropLast
  if 3 < others.length || others.any (255 < ·) || Nat.pow 256 (4 - others.length) ≤ last then none
  let weighted := others.zipIdx.map fun part ↦ part.1 * Nat.pow 256 (3 - part.2)
  return dotted (weighted.foldl (· + ·) last)

/-- The host that a text stands for. -/
def host? (text : Text) : Option Text :=
  match text with
  | [] => none
  | '[' :: rest => if rest.getLast? = some ']' then some text else none
  | _ =>
    match Text.decode? (percentDecode text) with
    | none => none
    | some decoded =>
      let host := decoded.map Char.toLower
      if host.isEmpty || host.any isForbidden then none
      else if endsInNumber host then numberHost? host
      else some host

end CodeRepair.Web
