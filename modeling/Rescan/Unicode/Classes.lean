import Rescan.Unicode.ClassTable

/-! # Classes of characters

The direction in which a character is written, whether it is a mark, and how it joins with the
characters beside it.
-/

namespace Rescan.Unicode

/-- The classes of direction that the rules for domain names tell apart. -/
inductive Direction where
  | leftToRight
  | rightToLeft
  | arabicLetter
  | europeanNumber
  | europeanSeparator
  | europeanTerminator
  | arabicNumber
  | commonSeparator
  | nonspacingMark
  | boundaryNeutral
  | otherNeutral
  /-- Every other class. -/
  | strange
  deriving DecidableEq, Repr

/-- The class of direction with an abbreviated name. -/
def Direction.ofName : List Char → Direction
  | ['L'] => .leftToRight
  | ['R'] => .rightToLeft
  | ['A', 'L'] => .arabicLetter
  | ['E', 'N'] => .europeanNumber
  | ['E', 'S'] => .europeanSeparator
  | ['E', 'T'] => .europeanTerminator
  | ['A', 'N'] => .arabicNumber
  | ['C', 'S'] => .commonSeparator
  | ['N', 'S', 'M'] => .nonspacingMark
  | ['B', 'N'] => .boundaryNeutral
  | ['O', 'N'] => .otherNeutral
  | _ => .strange

/-- The directions of characters. -/
def directions : Runs Direction := .ofText Direction.ofName directionText

def direction (c : Char) : Direction := (directions.find? c.toNat).getD .leftToRight

/-- Which characters are marks. -/
def marks : Runs Bool := .ofText (· == ['M']) markText

def isMark (c : Char) : Bool := (marks.find? c.toNat).getD false

/-- How a character joins with its neighbours. -/
inductive Joining where
  | left
  | right
  | dual
  | causing
  | transparent
  | none
  deriving DecidableEq, Repr

/-- The type of joining with an abbreviated name. -/
def Joining.ofName : List Char → Joining
  | ['L'] => .left
  | ['R'] => .right
  | ['D'] => .dual
  | ['C'] => .causing
  | ['T'] => .transparent
  | _ => .none

def joinings : Runs Joining := .ofText Joining.ofName joiningText

def joining (c : Char) : Joining := (joinings.find? c.toNat).getD .none

end Rescan.Unicode
