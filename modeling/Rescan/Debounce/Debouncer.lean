import Rescan.Debounce.Drain
import Rescan.Debounce.Queue
import Rescan.Settings.Check
import Rescan.Telemetry.Meter
import Rescan.Topology.Registry

/-! # The debouncer

The debouncer takes in keys and drains them, at every tick of its loop and whenever a caller asks
for it. Everything it does is a sequence of the steps below, which may follow each other in any
order: keys come in, the registry is edited, the loop is started and cancelled, drains begin,
go on and close, dispatches are sent and end. A ticker tells when the loop is due. When it fires
late the next tick keeps to the schedule if the delay was short, and else is due one interval after
the late one.
-/

namespace Rescan.Debounce

open Rescan.Resource (Key)
open Rescan.Telemetry (Meter)
open Rescan.Topology (Registry Target)

/-- The time of the next tick. Times are in milliseconds. -/
structure Ticker where
  interval : Nat
  due : Nat
  deriving DecidableEq, Repr, Inhabited

namespace Ticker

/-- The delay up to which the schedule is kept. -/
def tolerance : Nat := 5

/-- A ticker whose first tick is due one interval after the given time. -/
def starting (now interval : Nat) : Ticker := ⟨interval, now + interval⟩

/-- The ticker after it fired at the given time. -/
def fire (ticker : Ticker) (now : Nat) : Ticker :=
  if now ≤ ticker.due + tolerance then { ticker with due := ticker.due + ticker.interval }
  else { ticker with due := now + ticker.interval }

end Ticker

/-- The loop that drains at every tick. -/
inductive Loop where
  | absent
  /-- It waits for the next tick. -/
  | idle (attribution : Attribution) (ticker : Ticker)
  /-- It carries out the drain of a tick. -/
  | draining (ticker : Ticker) (drain : Drain)
  | ended
  deriving DecidableEq, Repr, Inhabited

/-- A debouncer with all that it has under way. -/
structure Debouncer where
  settings : Settings.Debouncer := {}
  registry : Registry := .empty
  queue : Queue := .empty .uninitialized
  /-- Whether the loop is to end. -/
  cancelled : Bool := false
  loop : Loop := .absent
  /-- The unfinished drains that callers asked for. -/
  calls : List Drain := []
  /-- The unfinished dispatches whose drain was given up. -/
  strays : List Dispatch := []
  /-- How many dispatches have been launched. -/
  launches : Nat := 0
  meter : Meter := {}

namespace Debouncer

instance : Inhabited Debouncer := ⟨{}⟩

/-- Which of its drains a debouncer goes on with. -/
inductive Site where
  | loop
  | call (index : Nat)
  deriving DecidableEq, Repr

def drain? (debouncer : Debouncer) : Site → Option Drain
  | .loop =>
    match debouncer.loop with
    | .draining _ drain => some drain
    | .absent | .idle _ _ | .ended => none
  | .call index => debouncer.calls[index]?

/-- Puts a drain in the place of the one at a site. -/
def setDrain (debouncer : Debouncer) (drain : Drain) : Site → Debouncer
  | .loop =>
    match debouncer.loop with
    | .draining ticker _ => { debouncer with loop := .draining ticker drain }
    | .absent | .idle _ _ | .ended => debouncer
  | .call index => { debouncer with calls := debouncer.calls.set index drain }

/-- All dispatches that are still to be collected or to end. -/
def dispatches (debouncer : Debouncer) : List Dispatch :=
  ((debouncer.drain? .loop).toList ++ debouncer.calls).flatMap Drain.dispatches ++ debouncer.strays

/-! ## Keys and targets -/

/-- Takes in a key. The answer is whether it was not pending before. -/
def add (debouncer : Debouncer) (key : Key) : Debouncer × Bool :=
  let (queue, isNew) := debouncer.queue.add key
  let meter :=
    if debouncer.queue.accepts then
      (debouncer.meter.countKey key.kind).setPending queue.size
    else debouncer.meter
  ({ debouncer with queue, meter }, isNew)

def edit (debouncer : Debouncer) (change : Registry.Edit) : Debouncer :=
  let registry := debouncer.registry.apply change
  let meter :=
    if debouncer.registry.reports change then debouncer.meter.setTargets registry.size
    else debouncer.meter
  { debouncer with registry, meter }

/-! ## The loop -/

/-- Starts the loop. The settings must pass their check, and the debouncer must not have been
started before. -/
def start (debouncer : Debouncer) (now : Nat) (attribution : Attribution) :
    Except Fault Debouncer :=
  match debouncer.settings.check with
  | .error fault => .error (.invalidSettings fault)
  | .ok _ =>
    match debouncer.queue.start with
    | .error fault => .error fault
    | .ok queue =>
      let ticker := Ticker.starting now debouncer.settings.tickIntervalMs
      .ok { debouncer with queue, loop := .idle attribution ticker }

def cancel (debouncer : Debouncer) : Debouncer := { debouncer with cancelled := true }

/-- Ends the loop: its drain is given up, pending keys are discarded. -/
def stop (debouncer : Debouncer) : Debouncer :=
  { debouncer with
    loop := .ended
    strays := debouncer.strays ++ ((debouncer.drain? .loop).toList).flatMap Drain.dispatches
    queue := debouncer.queue.stop
    meter := debouncer.meter.setPending 0 }

/-- The loop ends if it was asked to. -/
def heed (debouncer : Debouncer) : Debouncer :=
  match debouncer.loop with
  | .idle _ _ | .draining _ _ => if debouncer.cancelled then debouncer.stop else debouncer
  | .absent | .ended => debouncer

/-! ## Drains -/

/-- Takes all pending keys out for a drain. -/
def take (debouncer : Debouncer) (attribution : Attribution) : Debouncer × Drain :=
  let (queue, keys) := debouncer.queue.take
  let meter := (debouncer.meter.setPending 0).countDrain keys.length
  ({ debouncer with queue, meter }, .ofKeys attribution keys)

/-- The loop begins a drain if a tick is due. -/
def tick (debouncer : Debouncer) (now : Nat) : Debouncer :=
  match debouncer.loop with
  | .idle attribution ticker =>
    if ticker.due ≤ now then
      let (debouncer, drain) := debouncer.take attribution
      { debouncer with loop := .draining (ticker.fire now) drain }
    else debouncer
  | .absent | .draining _ _ | .ended => debouncer

/-- A caller begins a drain. -/
def call (debouncer : Debouncer) (attribution : Attribution) : Debouncer :=
  let (debouncer, drain) := debouncer.take attribution
  { debouncer with calls := debouncer.calls ++ [drain] }

/-- A drain goes on: it collects outcomes and launches further dispatches. -/
def poll (debouncer : Debouncer) (site : Site) : Debouncer :=
  match debouncer.drain? site with
  | none => debouncer
  | some drain =>
    let limit := debouncer.settings.maxConcurrentDispatches
    let drain := drain.collect
    { debouncer.setDrain (drain.launch limit debouncer.launches) site with
      launches := debouncer.launches + drain.room limit }

/-- The loop waits for the next tick once its drain is complete. -/
def closeLoop (debouncer : Debouncer) : Debouncer :=
  match debouncer.loop with
  | .draining ticker drain =>
    if drain.isComplete then
      { debouncer with
        loop := .idle drain.attribution ticker
        meter := debouncer.meter.countReport drain.report }
    else debouncer
  | .absent | .idle _ _ | .ended => debouncer

/-- A caller gets the report of a complete drain. -/
def closeCall (debouncer : Debouncer) (index : Nat) : Debouncer × Option Report :=
  match debouncer.calls[index]? with
  | none => (debouncer, none)
  | some drain =>
    if drain.isComplete then
      ({ debouncer with
          calls := debouncer.calls.eraseIdx index
          meter := debouncer.meter.countReport drain.report }, some drain.report)
    else (debouncer, none)

/-- A caller gives up its drain. Dispatches that were launched go on. -/
def abandonCall (debouncer : Debouncer) (index : Nat) : Debouncer :=
  match debouncer.calls[index]? with
  | none => debouncer
  | some drain =>
    { debouncer with
      calls := debouncer.calls.eraseIdx index
      strays := debouncer.strays ++ drain.dispatches }

/-! ## Dispatches -/

/-- Moves the dispatch with a number to a stage. A stray dispatch that has ended is forgotten. -/
def advance (debouncer : Debouncer) (number : Nat) (stage : Stage) : Debouncer :=
  { debouncer with
    loop :=
      match debouncer.loop with
      | .draining ticker drain => .draining ticker (drain.advance number stage)
      | loop => loop
    calls := debouncer.calls.map (Drain.advance number stage)
    strays := (debouncer.strays.map (Dispatch.advance number stage)).filter Dispatch.isUnfinished }

/-- A launched dispatch has its turn: it looks up its target and sends its request, or ends
without a target. -/
def send (debouncer : Debouncer) (dispatch : Dispatch) :
    Debouncer × Option (Target × Delivery.Request) :=
  match debouncer.registry.lookup dispatch.key.ns with
  | none => (debouncer.advance dispatch.number (.ended .noTarget), none)
  | some target => (debouncer.advance dispatch.number .sent, some (target, dispatch.request))

/-- The delivery of a dispatch ends. -/
def land (debouncer : Debouncer) (number : Nat) (outcome : Outcome) : Debouncer :=
  debouncer.advance number (.ended outcome)

end Debouncer

end Rescan.Debounce
