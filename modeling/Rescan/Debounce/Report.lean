/-! # Outcomes and reports

Every key that is drained has one outcome. A report counts the outcomes of one drain.
-/

namespace Rescan.Debounce

/-- What became of one drained key. -/
inductive Outcome where
  /-- The scan request was delivered. -/
  | success
  /-- The scan request was not delivered. -/
  | failure
  /-- No target is registered for the namespace of the key. -/
  | noTarget
  /-- The delivery broke down. -/
  | panic
  deriving DecidableEq, Repr

def Outcome.word : Outcome → String
  | .success => "success"
  | .failure => "failure"
  | .noTarget => "no_target"
  | .panic => "panic"

/-- The counts of one drain. -/
structure Report where
  drained : Nat := 0
  dispatched : Nat := 0
  failed : Nat := 0
  noTarget : Nat := 0
  panicked : Nat := 0
  deriving DecidableEq, Repr, Inhabited

namespace Report

def note (report : Report) : Outcome → Report
  | .success => { report with dispatched := report.dispatched + 1 }
  | .failure => { report with failed := report.failed + 1 }
  | .noTarget => { report with noTarget := report.noTarget + 1 }
  | .panic => { report with panicked := report.panicked + 1 }

def count (report : Report) : Outcome → Nat
  | .success => report.dispatched
  | .failure => report.failed
  | .noTarget => report.noTarget
  | .panic => report.panicked

def plus (report other : Report) : Report where
  drained := report.drained + other.drained
  dispatched := report.dispatched + other.dispatched
  failed := report.failed + other.failed
  noTarget := report.noTarget + other.noTarget
  panicked := report.panicked + other.panicked

/-- An outcome adds one to its own count and leaves the others. -/
theorem count_note (report : Report) (noted outcome : Outcome) :
    (report.note noted).count outcome =
      report.count outcome + if noted = outcome then 1 else 0 := by
  cases noted <;> cases outcome <;> rfl

end Report

end Rescan.Debounce
