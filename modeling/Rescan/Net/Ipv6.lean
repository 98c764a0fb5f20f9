import Rescan.Net.Ipv4

/-! # Internet addresses, version 6

An address has eight pieces of sixteen bits. It is written as hexadecimal numbers with colons
between them, where two colons stand for the first longest run of at least two zero pieces.
The last two pieces may be read as a version 4 address.
-/

namespace Rescan.Net

/-- An address of eight pieces. -/
structure Ipv6 where
  pieces : List UInt16
  length_pieces : pieces.length = 8 := by rfl
  deriving DecidableEq, Repr

namespace Ipv6

def unspecified : Ipv6 := ⟨[0, 0, 0, 0, 0, 0, 0, 0], rfl⟩

instance : Inhabited Ipv6 := ⟨unspecified⟩

/-- The length of the run of zeros at the beginning of a list. -/
def zeroRun (pieces : List UInt16) : Nat := (pieces.takeWhile (· == 0)).length

/-- The first longest run of zeros, as the number of pieces before it and its length. -/
def longestZeroRun : List UInt16 → Nat × Nat
  | [] => (0, 0)
  | piece :: rest =>
    let here := zeroRun (piece :: rest)
    let (before, later) := longestZeroRun rest
    if later ≤ here then (0, here) else (before + 1, later)

/-- Pieces in hexadecimal with colons between them. -/
def renderPieces (pieces : List UInt16) : String :=
  ":".intercalate (pieces.map fun piece => String.ofList (Text.digits 16 piece.toNat))

/-- The text of an address, all pieces in hexadecimal. -/
def renderHex (ip : Ipv6) : String :=
  let (before, zeros) := longestZeroRun ip.pieces
  if zeros < 2 then renderPieces ip.pieces
  else
    renderPieces (ip.pieces.take before) ++ "::" ++ renderPieces (ip.pieces.drop (before + zeros))

/-- The version 4 address that an address stands for, if it stands for one. -/
def mapped? (ip : Ipv6) : Option Ipv4 :=
  match ip.pieces with
  | [0, 0, 0, 0, 0, 0xFFFF, high, low] => some (Ipv4.ofNat (high.toNat * 0x10000 + low.toNat))
  | _ => none

/-- The text of an address; one that stands for a version 4 address ends like that. -/
def render (ip : Ipv6) : String :=
  match ip.mapped? with
  | some v4 => "::ffff:" ++ v4.render
  | none => ip.renderHex

/-- The two pieces that a version 4 address fills. -/
def piecesOf (v4 : Ipv4) : List UInt16 :=
  [UInt16.ofNat (v4.a.toNat * 0x100 + v4.b.toNat), UInt16.ofNat (v4.c.toNat * 0x100 + v4.d.toNat)]

/-- Reads at most `room` pieces with colons between them, and tells whether they end with a
version 4 address. What is no piece is left unread, with the colon before it. -/
def readPieces (first : Bool) : (room : Nat) → (input : List Char) →
    List UInt16 × Bool × List Char
  | 0, input => ([], false, input)
  | room + 1, input =>
    match if first then some input else readChar? ':' input with
    | none => ([], false, input)
    | some start =>
      let tail? := if room = 0 then none else Ipv4.read? start
      match tail? with
      | some (v4, rest) => (piecesOf v4, true, rest)
      | none =>
        match readBelow? 16 (some 4) 0x10000 start with
        | none => ([], false, input)
        | some (n, rest) =>
          let (pieces, dotted, rest) := readPieces false room rest
          (UInt16.ofNat n :: pieces, dotted, rest)

/-- The address with the given pieces at its beginning and its end and zeros between them. -/
def ofEnds? (head tail : List UInt16) : Option Ipv6 :=
  let zeros := 8 - head.length - tail.length
  let pieces := head ++ List.replicate zeros 0 ++ tail
  if h : pieces.length = 8 then some ⟨pieces, h⟩ else none

/-- Reads an address at the beginning of the input. -/
def read? (input : List Char) : Option (Ipv6 × List Char) :=
  let (head, dotted, rest) := readPieces true 8 input
  if head.length = 8 then (ofEnds? head []).map (·, rest)
  else if dotted then none
  else
    match rest with
    | ':' :: ':' :: more =>
      let (tail, _, rest) := readPieces true (7 - head.length) more
      (ofEnds? head tail).map (·, rest)
    | _ => none

end Ipv6

end Rescan.Net
