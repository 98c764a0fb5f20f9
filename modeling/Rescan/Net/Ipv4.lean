import Rescan.Text.Basic

/-! # Internet addresses, version 4

An address has four octets. It is written as four decimal numbers with dots between them, and
read in no other form: a number has at most three digits and no zero before its first digit.
-/

namespace Rescan.Net

/-- An address of four octets. -/
structure Ipv4 where
  a : UInt8
  b : UInt8
  c : UInt8
  d : UInt8
  deriving DecidableEq, Repr, Inhabited

/-- Reads at most `limit` digits of a base; without a limit all that follow. A number with more
digits than the limit is refused. -/
def readDigits? (base : Nat) (limit : Option Nat) (input : List Char) :
    Option (List Char × List Char) :=
  let digits := input.takeWhile (Text.isDigitOf base)
  if digits.isEmpty || limit.any (· < digits.length) then none
  else some (digits, input.dropWhile (Text.isDigitOf base))

/-- Reads a number below `bound` with digits of a base. -/
def readBelow? (base : Nat) (limit : Option Nat) (bound : Nat) (input : List Char) :
    Option (Nat × List Char) := do
  let (digits, rest) ← readDigits? base limit input
  let n := Text.digitsValue base digits
  if n < bound then some (n, rest) else none

/-- The input after the given character, if it begins with it. -/
def readChar? (c : Char) : List Char → Option (List Char)
  | [] => none
  | d :: rest => if d = c then some rest else none

namespace Ipv4

def ofNat (n : Nat) : Ipv4 :=
  ⟨UInt8.ofNat (n / 0x1000000), UInt8.ofNat (n / 0x10000), UInt8.ofNat (n / 0x100),
    UInt8.ofNat n⟩

def render (ip : Ipv4) : String :=
  Text.decimal ip.a.toNat ++ "." ++ Text.decimal ip.b.toNat ++ "." ++
    Text.decimal ip.c.toNat ++ "." ++ Text.decimal ip.d.toNat

def readOctet? (input : List Char) : Option (UInt8 × List Char) := do
  let (digits, rest) ← readDigits? 10 (some 3) input
  let n := Text.digitsValue 10 digits
  if 256 ≤ n || (digits.head? == some '0' && 1 < digits.length) then none
  else some (UInt8.ofNat n, rest)

/-- Reads an address at the beginning of the input. -/
def read? (input : List Char) : Option (Ipv4 × List Char) := do
  let (a, rest) ← readOctet? input
  let (b, rest) ← readOctet? (← readChar? '.' rest)
  let (c, rest) ← readOctet? (← readChar? '.' rest)
  let (d, rest) ← readOctet? (← readChar? '.' rest)
  return (⟨a, b, c, d⟩, rest)

end Ipv4

end Rescan.Net
