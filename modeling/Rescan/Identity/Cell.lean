import Rescan.Attribution

/-! # Asking for the identity once

A cell keeps the first answer that tells the identifier, or tells that there is none. Until then
one caller at a time asks and the others wait for it. A failure goes to the caller that asked,
and the next one in line asks in its turn.
-/

namespace Rescan.Identity

/-- A kept answer with the callers that wait for one. Callers are told apart by numbers. -/
structure Cell where
  kept : Option (Option String) := none
  /-- The caller that is asking. -/
  asking : Option Nat := none
  /-- The callers in line behind it. -/
  waiting : List Nat := []
  deriving DecidableEq, Repr, Inhabited

/-- What a caller does next. -/
inductive Turn where
  /-- It has its answer. -/
  | told (uid : Option String)
  /-- It asks. -/
  | asks
  /-- It waits for the caller that asks. -/
  | waits
  deriving DecidableEq, Repr

namespace Cell

def call (cell : Cell) (caller : Nat) : Cell × Turn :=
  match cell.kept, cell.asking with
  | some uid, _ => (cell, .told uid)
  | none, none => ({ cell with asking := some caller }, .asks)
  | none, some _ => ({ cell with waiting := cell.waiting ++ [caller] }, .waits)

/-- The asking caller has an answer. The callers that are told are listed with what they are
told. -/
def answer (cell : Cell) (answer : Answer) : Cell × List (Nat × Answer) :=
  match cell.asking with
  | none => (cell, [])
  | some caller =>
    match answer with
    | .ok uid =>
      ({ kept := some uid }, (caller :: cell.waiting).map fun told => (told, .ok uid))
    | .error fault =>
      ({ cell with asking := cell.waiting.head?, waiting := cell.waiting.tail },
        [(caller, .error fault)])

end Cell

end Rescan.Identity
