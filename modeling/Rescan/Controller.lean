import Rescan.Attribution
import Rescan.Debounce.Debouncer
import Rescan.Failure
import Rescan.Resource.Change
import Rescan.Roster

/-! # Controllers

A controller brings the changes of objects of one kind to the debouncer: it passes over notices
that do not concern it and adds the keys of the others. Controllers share the debouncer; the
first one that knows the identity of the cluster starts it.
-/

namespace Rescan

open Rescan.Debounce (Debouncer)
open Rescan.Resource (Key Kind Metadata Notice WatchEvent)

/-- A controller of one kind of objects. -/
structure Controller where
  kind : Kind
  /-- Which notices concern it. -/
  accepts : Notice → Bool := Notice.warrantsScan
  /-- The key of a notice. -/
  keyOf : Kind → Notice → Key := fun kind notice => .ofKind kind notice.ns notice.name
  /-- The beginning of the attribution of scans. -/
  stem : String := "scanwatch-operator-"

namespace Controller

/-- The key of all objects of a namespace. -/
def byNamespace (kind : Kind) (notice : Notice) : Key := .ofKind kind notice.ns "all"

/-- The key of an object, with the change in the place of its namespace. -/
def byChange (kind : Kind) (notice : Notice) : Key := .ofKind kind notice.change.title notice.name

def runName (controller : Controller) : String := (Runnable.monitor controller.kind).name

/-- What a controller did about a notice. -/
inductive Outcome where
  /-- The key is newly pending. -/
  | queued (key : Key)
  /-- The key was added and was not newly pending. -/
  | coalesced (key : Key)
  /-- The notice does not concern the controller. -/
  | filtered
  deriving DecidableEq, Repr

def reconcile (controller : Controller) (debouncer : Debouncer) (notice : Notice) :
    Debouncer × Outcome :=
  if controller.accepts notice then
    let key := controller.keyOf controller.kind notice
    match debouncer.add key with
    | (debouncer, true) => (debouncer, .queued key)
    | (debouncer, false) => (debouncer, .coalesced key)
  else (debouncer, .filtered)

/-- Brings a report of a watch to the debouncer, if there is a notice in it. -/
def reconcileEvent (controller : Controller) (debouncer : Debouncer)
    (event : WatchEvent Metadata) : Debouncer × Option Outcome :=
  match Notice.ofEvent? event with
  | none => (debouncer, none)
  | some notice =>
    let (debouncer, outcome) := controller.reconcile debouncer notice
    (debouncer, some outcome)

/-- Starts the debouncer once the identity of the cluster has been asked for. The result tells
whether this controller started it; a debouncer that was started before is no failure. -/
def start (controller : Controller) (debouncer : Debouncer) (now : Nat)
    (answer : Identity.Answer) : Except Failure (Debouncer × Bool) :=
  match answer with
  | .error fault => .error (.monitoring fault)
  | .ok uid =>
    match debouncer.start now (.ofCluster controller.stem uid) with
    | .ok debouncer => .ok (debouncer, true)
    | .error (.alreadyStarted _) => .ok (debouncer, false)
    | .error fault => .error (.debouncing fault)

/-- The task of a controller once its start has returned. -/
inductive Task where
  /-- It lives as long as the loop of the debouncer, which it started. -/
  | owner
  | over (result : Except Failure Unit)

/-- The task goes on only if the controller started the debouncer. -/
def Task.ofStart : Except Failure Bool → Task
  | .ok true => .owner
  | .ok false => .over (.ok ())
  | .error failure => .over (.error failure)

/-- What the task returned, if it is over. -/
def Task.result? (task : Task) (debouncer : Debouncer) : Option (Except Failure Unit) :=
  match task with
  | .over result => some result
  | .owner =>
    match debouncer.loop with
    | .ended => some (.ok ())
    | .absent | .idle _ _ | .draining _ _ => none

end Controller

end Rescan
