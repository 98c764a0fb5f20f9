import Rescan.Debounce.Report

/-! # Measurements

The meter counts what the debouncer does and notes how many keys are pending and how many
targets are registered. Nothing is measured before the meter is ready.
-/

namespace Rescan.Telemetry

open Rescan.Debounce (Outcome Report)

/-- A number for each of some names. -/
abbrev Tally := List (String × Nat)

def Tally.add (count : Nat) (name : String) : Tally → Tally
  | [] => [(name, count)]
  | entry :: rest =>
    if entry.1 = name then (name, entry.2 + count) :: rest else entry :: Tally.add count name rest

/-- What has been measured. The numbers are exact, as counters in double precision are up to
`2 ^ 53`. -/
structure Meter where
  ready : Bool := false
  /-- The keys taken in, by kind. -/
  added : Tally := []
  /-- The sizes of the drains, the latest first. -/
  drains : List Nat := []
  /-- The outcomes of the drained keys. -/
  outcomes : Report := {}
  pending : Nat := 0
  targets : Nat := 0
  deriving DecidableEq, Repr, Inhabited

namespace Meter

/-- Makes the meter ready. A ready one stays as it is. -/
def prepare (meter : Meter) : Meter := { meter with ready := true }

/-- Changes the measurements of a meter that is ready. -/
def measure (change : Meter → Meter) (meter : Meter) : Meter :=
  if meter.ready then change meter else meter

def countKey (kind : String) : Meter → Meter :=
  measure fun meter => { meter with added := Tally.add 1 kind meter.added }

def countDrain (size : Nat) : Meter → Meter :=
  measure fun meter => { meter with drains := size :: meter.drains }

def countOutcome (outcome : Outcome) : Meter → Meter :=
  measure fun meter => { meter with outcomes := meter.outcomes.note outcome }

def countReport (report : Report) : Meter → Meter :=
  measure fun meter => { meter with outcomes := meter.outcomes.plus report }

def setPending (count : Nat) : Meter → Meter := measure fun meter => { meter with pending := count }

def setTargets (count : Nat) : Meter → Meter := measure fun meter => { meter with targets := count }

end Meter

end Rescan.Telemetry
