import Rescan.Failure

/-! # Supervision of tasks

All tasks run together and are told together to end: when a signal comes, when someone else
cancels them, when the first of them fails, or when none is left. Then they have a grace period;
what has not ended after it is aborted. The supervisor returns the failure that made it stop, if
one did. Tasks are told apart by numbers.
-/

namespace Rescan

namespace Supervisor

/-- How a task ends. -/
inductive Ending where
  | completed
  | failed (failure : Failure)
  | panicked
  deriving DecidableEq, Repr

def Ending.failure? : Ending → Option Failure
  | .completed => none
  | .failed failure => some failure
  | .panicked => some (.plain "Runnable task aborted")

/-- How far the supervisor has come. -/
inductive Phase where
  | running
  /-- The tasks were told to end at this time. -/
  | stopping (since : Nat)
  /-- The supervisor has returned. -/
  | returned (time : Nat)
  deriving DecidableEq, Repr

end Supervisor

/-- The supervision of some tasks. Times are in milliseconds. -/
structure Supervisor where
  graceMs : Nat := 10000
  /-- The tasks that have not ended. -/
  live : List Nat
  phase : Supervisor.Phase := .running
  /-- The failure that made the supervisor stop. -/
  failure : Option Failure := none
  deriving DecidableEq, Repr

namespace Supervisor

def conclude (supervisor : Supervisor) (now : Nat) : Supervisor :=
  match supervisor.phase with
  | .returned _ => supervisor
  | .running | .stopping _ =>
    if supervisor.live.isEmpty then { supervisor with phase := .returned now } else supervisor

/-- The supervision of a number of tasks, which all begin at time zero. -/
def ofCount (count graceMs : Nat) : Supervisor :=
  ({ graceMs, live := List.range count } : Supervisor).conclude 0

/-- A signal or a cancellation from outside: the tasks are told to end. -/
def stop (supervisor : Supervisor) (now : Nat) : Supervisor :=
  match supervisor.phase with
  | .running => { supervisor with phase := .stopping now }
  | .stopping _ | .returned _ => supervisor

/-- A task ends. A failure counts only while the supervisor runs. -/
def taskEnded (supervisor : Supervisor) (task now : Nat) (ending : Ending) : Supervisor :=
  let remaining := { supervisor with live := supervisor.live.erase task }
  match supervisor.phase, ending.failure? with
  | .running, some failure =>
    ({ remaining with phase := .stopping now, failure := some failure } : Supervisor).conclude now
  | _, _ => remaining.conclude now

/-- The end of the grace period. -/
def deadline? (supervisor : Supervisor) : Option Nat :=
  match supervisor.phase with
  | .stopping since => some (since + supervisor.graceMs)
  | .running | .returned _ => none

def expire (supervisor : Supervisor) (now : Nat) : Supervisor :=
  match supervisor.phase with
  | .stopping _ => { supervisor with phase := .returned now }
  | .running | .returned _ => supervisor

def isCancelled (supervisor : Supervisor) : Bool := supervisor.phase != .running

def hasReturned (supervisor : Supervisor) : Bool :=
  match supervisor.phase with
  | .returned _ => true
  | .running | .stopping _ => false

def result (supervisor : Supervisor) : Except Failure Unit :=
  match supervisor.failure with
  | some failure => .error failure
  | none => .ok ()

end Supervisor

end Rescan
