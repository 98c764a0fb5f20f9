import Rescan.Unicode.CompositionTable

/-! # Composition of characters

A text is composed in two steps: every composed character is taken apart and the combining
characters after each base are put in the order of their classes; then every character is
composed with the last base before it, unless a character between them stands in the way.
Syllables of Hangul are composed of two or three letters by rule.
-/

namespace Rescan.Unicode

/-- The combining classes of characters. -/
def combiningClasses : Runs Nat := .ofText number36 combiningText

/-- The combining class of a character; zero for a base. -/
def combiningClass (c : Char) : Nat := (combiningClasses.find? c.toNat).getD 0

/-- The composed characters with their parts, in ascending order. -/
def compositionList : List (Nat × Nat × Nat) :=
  ((words compositionText.toList).foldl
    (fun (next, found) word =>
      let (gap, parts) := cutAt ':' word
      let (first, second) := cutAt '.' parts
      let code := next + number36 gap
      (code + 1, (code, number36 first, number36 second) :: found)) (0, [])).2.reverse

/-- The parts of composed characters. -/
def decompositions : Runs (Nat × Nat × Nat) :=
  ⟨(compositionList.map fun entry => (entry.1 + 1, entry)).toArray⟩

/-- The composed characters by their parts. -/
def compositions : Runs (Nat × Nat) :=
  let pairs := compositionList.map fun (code, first, second) => (first * 0x110000 + second, code)
  ⟨((pairs.mergeSort fun a b => a.1 ≤ b.1).map fun entry => (entry.1 + 1, entry)).toArray⟩

/-- The first syllable of Hangul. -/
def syllableBase : Nat := 0xAC00

/-- The number of syllables of Hangul. -/
def syllableCount : Nat := 11172

def syllableParts (n : Nat) : List Char :=
  let index := n - syllableBase
  let lead := Char.ofNat (0x1100 + index / 588)
  let vowel := Char.ofNat (0x1161 + index % 588 / 28)
  if index % 28 = 0 then [lead, vowel] else [lead, vowel, Char.ofNat (0x11A7 + index % 28)]

/-- Takes a character apart. Parts are taken apart again, four times at most, which is
more often than any character needs. -/
def takeApart : Nat → Char → List Char
  | 0, c => [c]
  | depth + 1, c =>
    let n := c.toNat
    if syllableBase ≤ n ∧ n < syllableBase + syllableCount then syllableParts n
    else
      match decompositions.find? n with
      | some (code, first, second) =>
        if code = n then
          takeApart depth (Char.ofNat first) ++ takeApart depth (Char.ofNat second)
        else [c]
      | none => [c]

/-- Puts a combining character into its place behind those of a lower or equal class. The list
is in reverse order. -/
def insertCombining (c : Char) (cls : Nat) : List Char → List Char
  | [] => [c]
  | d :: rest =>
    if cls < combiningClass d then d :: insertCombining c cls rest else c :: d :: rest

/-- The characters with the combining ones ordered by their classes. -/
def orderCombining (cs : List Char) : List Char :=
  (cs.foldl (fun done c =>
    let cls := combiningClass c
    if cls = 0 then c :: done else insertCombining c cls done) []).reverse

def compose? (a b : Char) : Option Char :=
  let m := a.toNat
  let n := b.toNat
  if 0x1100 ≤ m ∧ m < 0x1113 ∧ 0x1161 ≤ n ∧ n < 0x1176 then
    some (Char.ofNat (syllableBase + ((m - 0x1100) * 21 + (n - 0x1161)) * 28))
  else if syllableBase ≤ m ∧ m < syllableBase + syllableCount ∧ (m - syllableBase) % 28 = 0 ∧
      0x11A7 < n ∧ n < 0x11C3 then
    some (Char.ofNat (m + (n - 0x11A7)))
  else
    match compositions.find? (m * 0x110000 + n) with
    | some (pair, code) => if pair = m * 0x110000 + n then some (Char.ofNat code) else none
    | none => none

/-- Composes ordered characters. The last base and the characters after it are kept apart from
the finished ones, both in reverse order. -/
def composeFrom (done : List Char) (base : Option Char) (after : List Char) :
    List Char → List Char
  | [] => (after ++ base.toList ++ done).reverse
  | c :: rest =>
    let cls := combiningClass c
    match base with
    | none =>
      if cls = 0 then composeFrom done (some c) [] rest
      else composeFrom (c :: done) none [] rest
    | some b =>
      let blocked := match after with
        | [] => false
        | d :: _ => combiningClass d = 0 ∨ cls ≤ combiningClass d
      match if blocked then none else compose? b c with
      | some composed => composeFrom done (some composed) after rest
      | none =>
        if cls = 0 then composeFrom (after ++ b :: done) (some c) [] rest
        else composeFrom done base (c :: after) rest

def composed (cs : List Char) : List Char :=
  composeFrom [] none [] (orderCombining (cs.flatMap (takeApart 4)))

end Rescan.Unicode
