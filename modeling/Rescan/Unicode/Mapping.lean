import Rescan.Unicode.MappingTable

/-! # Mapping of characters in domain names

Every character is valid, ignored, disallowed or replaced by others.
-/

namespace Rescan.Unicode

/-- What becomes of a character of a domain name. -/
inductive Treatment where
  | valid
  | ignored
  | disallowed
  | replaced (cs : List Char)
  deriving DecidableEq, Repr

/-- A rule of replacement for characters at a fixed distance from each other. A single
replacing character moves on by the same distance. -/
structure Replacement where
  start : Nat
  count : Nat
  step : Nat
  targets : List Nat
  deriving Repr

namespace Replacement

/-- Reads a rule that begins a number of characters after `next`. -/
def ofWord (next : Nat) (word : List Char) : Replacement :=
  let (source, targets) := cutAt ':' word
  let (gap, run) := cutAt '*' source
  let (count, step) := cutAt '/' run
  { start := next + number36 gap
    count := if count.isEmpty then 1 else number36 count
    step := if step.isEmpty then 1 else number36 step
    targets := (words (targets.map fun c => if c = '.' then ' ' else c)).map number36 }

/-- The number after the last one that a rule replaces. -/
def stop (rule : Replacement) : Nat := rule.start + (rule.count - 1) * rule.step + 1

/-- The characters that a rule puts in place of a character. -/
def replace? (rule : Replacement) (n : Nat) : Option (List Char) :=
  if n < rule.start ∨ (n - rule.start) % rule.step ≠ 0 then none
  else if rule.count = 1 then some (rule.targets.map Char.ofNat)
  else some (rule.targets.map fun target => Char.ofNat (target + (n - rule.start)))

end Replacement

/-- The rules of replacement. -/
def replacements : Runs Replacement :=
  ⟨((words replacementText.toList).foldl
    (fun (next, rules) word =>
      let rule := Replacement.ofWord next word
      (rule.stop, rules.push (rule.stop, rule))) (0, #[])).2⟩

/-- The treatment of characters that are not replaced. -/
def treatments : Runs Treatment :=
  .ofText (fun
    | ['V'] => .valid
    | ['I'] => .ignored
    | _ => .disallowed) statusText

def treatment (c : Char) : Treatment :=
  match (replacements.find? c.toNat).bind (·.replace? c.toNat) with
  | some cs => .replaced cs
  | none => (treatments.find? c.toNat).getD .disallowed

end Rescan.Unicode
