import Rescan.Url.Basic
import Rescan.Url.Domain
import Rescan.Url.Percent

/-! # Hosts of URLs

In the schemes with an authority a host is a domain name, a version 4 address if its last label
is a number, or a version 6 address in brackets. In every other scheme a host is a name of its
own that only lacks some characters.
-/

namespace Rescan.Url

/-- A number of a version 4 address. In `0x` numbers and numbers with a zero before other digits
the base is sixteen and eight. The value is absent when it does not fit into 32 bits. -/
def ipv4Number? (cs : List Char) : Option (Option Nat) :=
  let read (base : Nat) (digits : List Char) : Option (Option Nat) :=
    if digits.all (Text.isDigitOf base) then
      let n := Text.digitsValue base digits
      some (if n < 0x100000000 then some n else none)
    else none
  match cs with
  | [] => none
  | '0' :: 'x' :: rest | '0' :: 'X' :: rest => read 16 rest
  | '0' :: d :: rest => read 8 (d :: rest)
  | _ => read 10 cs

/-- Whether a domain name ends like an address: its last label, a final empty one aside, is made
of digits or is a number. -/
def endsInNumber (cs : List Char) : Bool :=
  let last := match (Domain.labels cs).reverse with
    | [] :: label :: _ => some label
    | [[]] => none
    | label :: _ => some label
    | [] => none
  match last with
  | none => false
  | some label => (!label.isEmpty && label.all Char.isDigit) || (ipv4Number? label).isSome

/-- The version 4 address that the labels of a name stand for. All numbers but the last one fill
one octet; the last one fills the rest. -/
def ipv4Host? (cs : List Char) : Option Net.Ipv4 := do
  let labels := match (Domain.labels cs).reverse with
    | [] :: rest => rest.reverse
    | all => all.reverse
  if 4 < labels.length then none
  let numbers ← labels.mapM fun label => (ipv4Number? label).join
  let high := numbers.dropLast
  let last ← numbers.getLast?
  if Nat.pow 256 (4 - high.length) ≤ last || high.any (255 < ·) then none
  let value := high.zipIdx.foldl (fun sum (n, i) => sum + n * Nat.pow 256 (3 - i)) last
  return Net.Ipv4.ofNat value

def ipv6Host? (cs : List Char) : Option Net.Ipv6 :=
  match cs.reverse with
  | ']' :: inside =>
    match Net.Ipv6.read? (inside.reverse.drop 1) with
    | some (ip, []) => some ip
    | _ => none
  | _ => none

def bracketHost (cs : List Char) : Except Fault Host :=
  match ipv6Host? cs with
  | some ip => .ok (.ipv6 ip)
  | none => .error .invalidIpv6

def networkHost (cs : List Char) : Except Fault Host :=
  if cs.head? == some '[' then bracketHost cs
  else
    let decoded := Text.Utf8.decodeLossy (Percent.decode cs)
    match Domain.toAscii? decoded.toList with
    | none => .error .invalidDomain
    | some domain =>
      if domain.isEmpty then .error .emptyHost
      else if endsInNumber domain then
        match ipv4Host? domain with
        | some ip => .ok (.ipv4 ip)
        | none => .error .invalidIpv4
      else .ok (.name (String.ofList domain))

/-- The characters that no host of another scheme contains. -/
def isForbiddenInHost (c : Char) : Bool :=
  ['\x00', '\t', '\n', '\r', ' ', '#', '/', ':', '<', '>', '?', '@', '[', '\\', ']', '^',
    '|'].contains c

def otherHost (cs : List Char) : Except Fault Host :=
  if cs.head? == some '[' then bracketHost cs
  else if cs.any isForbiddenInHost then .error .invalidHostCharacter
  else .ok (.name (String.ofList (Percent.encode [] cs)))

end Rescan.Url
