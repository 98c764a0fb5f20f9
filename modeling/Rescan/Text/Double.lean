import Rescan.Text.Basic

/-! # Whole numbers in double precision

A number in double precision keeps 53 significant bits. Its text has the fewest significant
digits that read back as the same number, and zeros after them.
-/

namespace Rescan.Text

namespace Double

/-- The number of significant bits. -/
def precision : Nat := 53

/-- How many low bits of a number are not kept. -/
def excess (n : Nat) : Nat := n.log2 + 1 - precision

/-- The nearest number that can be kept; of two, the one whose last kept bit is zero. -/
def round (n : Nat) : Nat :=
  let unit := Nat.pow 2 (excess n)
  let kept := n / unit
  let rest := n % unit
  if unit < 2 * rest ∨ (2 * rest = unit ∧ kept % 2 = 1) then (kept + 1) * unit else kept * unit

/-- The nearer of the two multiples of `step` around a number that reads back as it. -/
def nearby? (value step : Nat) : Option Nat :=
  let below := value / step * step
  let above := below + step
  let candidates := if value - below ≤ above - value then [below, above] else [above, below]
  candidates.find? fun candidate => round candidate == value

/-- The number with the fewest significant digits that reads back as `value`, if more than
`places` of its last digits need not be zero. -/
def shortestFrom (value : Nat) : Nat → Nat
  | 0 => value
  | places + 1 => (nearby? value (Nat.pow 10 (places + 1))).getD (shortestFrom value places)

/-- The number with the fewest significant digits that reads back as a number that can be
kept. -/
def shortest (value : Nat) : Nat := shortestFrom value ((digits 10 value).length - 1)

def render (n : Nat) : String := decimal (shortest (round n))

end Double

end Rescan.Text
