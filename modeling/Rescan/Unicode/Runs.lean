/-! # Runs of characters

A class of every character is given by runs: how many characters in a row have which class.
Runs are written as words between blanks, with the numbers in base thirty-six, and looked up by
halving.
-/

namespace Rescan.Unicode

/-- The longest runs of characters other than blanks. -/
def words (cs : List Char) : List (List Char) :=
  let (word, rest) := cs.foldr
    (fun c (word, rest) =>
      if c.isWhitespace then ([], if word.isEmpty then rest else word :: rest)
      else (c :: word, rest))
    ([], [])
  if word.isEmpty then rest else word :: rest

def digitValue36 (c : Char) : Nat :=
  if c.isDigit then c.toNat - '0'.toNat else c.toNat - 'a'.toNat + 10

def number36 (cs : List Char) : Nat := cs.foldl (fun n c => 36 * n + digitValue36 c) 0

/-- A list cut at the first of a character, which is left out. -/
def cutAt (c : Char) (cs : List Char) : List Char × List Char :=
  (cs.takeWhile (· != c), (cs.dropWhile (· != c)).drop 1)

/-- Intervals of numbers in ascending order, each with the first number after it. -/
structure Runs (α : Type) where
  ends : Array (Nat × α)

namespace Runs

/-- The value at the first end above `n` among those between two indices. -/
def search {α : Type} (ends : Array (Nat × α)) (n low high : Nat) : Option α :=
  if _h : low < high then
    let middle := (low + high) / 2
    match ends[middle]? with
    | none => none
    | some (stop, _) =>
      if n < stop then search ends n low middle else search ends n (middle + 1) high
  else (ends[low]?).map (·.2)
termination_by high - low

/-- The value of the interval that a number is in or before. -/
def find? {α : Type} (runs : Runs α) (n : Nat) : Option α :=
  search runs.ends n 0 runs.ends.size

/-- Runs that are written as words, a length and a class each. -/
def ofText {α : Type} (classOf : List Char → α) (text : String) : Runs α :=
  ⟨((words text.toList).foldl
    (fun (start, ends) word =>
      let (length, className) := cutAt '/' word
      let stop := start + number36 length
      (stop, ends.push (stop, classOf className))) (0, #[])).2⟩

end Runs

end Rescan.Unicode
