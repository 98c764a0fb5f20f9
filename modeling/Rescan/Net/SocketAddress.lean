import Rescan.Net.Ipv6

/-! # Socket addresses

An internet address with a port. A version 6 address stands in brackets and may carry the
number of a scope; the scope zero is not written.
-/

namespace Rescan.Net

/-- An internet address with a port. -/
inductive SocketAddress where
  | v4 (ip : Ipv4) (port : UInt16)
  | v6 (ip : Ipv6) (scope : UInt32) (port : UInt16)
  deriving DecidableEq, Repr

namespace SocketAddress

instance : Inhabited SocketAddress := ⟨.v4 default 0⟩

def render : SocketAddress → String
  | .v4 ip port => ip.render ++ ":" ++ Text.decimal port.toNat
  | .v6 ip scope port =>
    let scopeText := if scope = 0 then "" else "%" ++ Text.decimal scope.toNat
    "[" ++ ip.render ++ scopeText ++ "]:" ++ Text.decimal port.toNat

/-- Reads a colon and a port that end the input. -/
def readPort? (input : List Char) : Option UInt16 := do
  let (port, rest) ← readBelow? 10 none 0x10000 (← readChar? ':' input)
  if rest.isEmpty then some (UInt16.ofNat port) else none

/-- Reads the scope of a version 6 address, if it has one. -/
def readScope? : List Char → Option (UInt32 × List Char)
  | '%' :: rest => do
    let (scope, rest) ← readBelow? 10 none 0x100000000 rest
    return (UInt32.ofNat scope, rest)
  | input => some (0, input)

/-- Reads a version 6 address in brackets with its port. -/
def readV6? (input : List Char) : Option SocketAddress := do
  let (ip, rest) ← Ipv6.read? (← readChar? '[' input)
  let (scope, rest) ← readScope? rest
  let port ← readPort? (← readChar? ']' rest)
  return .v6 ip scope port

def readV4? (input : List Char) : Option SocketAddress := do
  let (ip, rest) ← Ipv4.read? input
  return .v4 ip (← readPort? rest)

def parse? (text : String) : Option SocketAddress :=
  readV4? text.toList <|> readV6? text.toList

end SocketAddress

end Rescan.Net
