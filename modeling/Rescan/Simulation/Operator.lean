import Rescan.Controller
import Rescan.Identity.Cell
import Rescan.Resource.Kind
import Rescan.Settings.Basic
import Rescan.Simulation.Basic
import Rescan.Simulation.Watcher
import Rescan.Supervisor.Basic
import Rescan.Topology.Sync

/-! # The whole program in simulated time

The program watches a scripted cluster: a controller and a watch for each kind, a watch of the
services of scan APIs, and the identity of the cluster, which the controllers ask for once. A
supervisor runs all of these tasks and ends them. At each moment the cluster is heard first, then
the debouncer does what is due, then ended tasks are told to the supervisor.
-/

namespace Rescan

open Rescan.Debounce (Debouncer)
open Rescan.Resource (Metadata WatchEvent)

namespace Simulation

/-- The scripted source of the identity. -/
structure Registrar where
  path : String
  /-- The replies in turn, with the time that each takes. Then it is silent. -/
  replies : List (Nat × Identity.Reply) := []
  asked : Nat := 0
  cell : Identity.Cell := {}
  /-- The reply that is on its way. -/
  coming : Option (Nat × Identity.Answer) := none

namespace Registrar

def request (registrar : Registrar) (now : Nat) : Registrar :=
  { registrar with
    replies := registrar.replies.tail
    asked := registrar.asked + 1
    coming := registrar.replies.head?.map fun (after, reply) => (now + after, reply.answer) }

/-- A controller wants the identity. Nothing is known at the beginning, so that it asks or
waits. -/
def call (registrar : Registrar) (caller now : Nat) : Registrar :=
  match registrar.cell.call caller with
  | (cell, .asks) => ({ registrar with cell } : Registrar).request now
  | (cell, .told _) | (cell, .waits) => { registrar with cell }

/-- The reply that is on its way comes if it is due. The controllers that are told are listed. -/
def hear (registrar : Registrar) (now : Nat) :
    Registrar × List (Nat × Identity.Answer) :=
  match registrar.coming with
  | none => (registrar, [])
  | some (time, answer) =>
    if now < time then (registrar, [])
    else
      let (cell, told) := registrar.cell.answer answer
      let registrar : Registrar := { registrar with cell, coming := none }
      (if cell.asking.isSome then registrar.request now else registrar, told)

def close (registrar : Registrar) : Registrar := { registrar with cell := {}, coming := none }

end Registrar

/-- How far the task of a controller has come. -/
inductive Stand where
  /-- It waits for the identity. -/
  | waiting
  /-- It started the debouncer, and ends with its loop. -/
  | owner
  | over
  deriving DecidableEq, Repr

/-- A controller with the watch of its kind. -/
structure Monitor where
  controller : Controller
  /-- The path of the objects of its kind. -/
  path : String
  watcher : Watcher Metadata := {}
  stand : Stand := .waiting

end Simulation

/-- The whole program at a moment of simulated time. -/
structure Operator where
  sim : Simulation
  supervisor : Supervisor
  rules : Topology.Rules
  sync : Topology.Sync := {}
  services : Simulation.Collection Topology.Service
  serviceWatcher : Simulation.Watcher Topology.Service := {}
  collections : List (Simulation.Collection Metadata)
  monitors : List Simulation.Monitor
  registrar : Simulation.Registrar
  /-- Whether the tasks have heard that they are to end. -/
  ending : Bool := false

namespace Operator

open Simulation

/-! ## Tasks -/

/-- The number of the task of a controller. -/
def controllerTask (index : Nat) : Nat := 2 * index

/-- The number of the task of the watch of a controller. -/
def watchTask (index : Nat) : Nat := 2 * index + 1

/-- The number of the task that follows the services. -/
def topologyTask (operator : Operator) : Nat := 2 * operator.monitors.length

def now (operator : Operator) : Nat := operator.sim.now

def debouncer (operator : Operator) : Debouncer := operator.sim.debouncer

def withDebouncer (operator : Operator) (debouncer : Debouncer) : Operator :=
  { operator with sim := { operator.sim with debouncer } }

def taskEnded (operator : Operator) (task : Nat) (ending : Supervisor.Ending) : Operator :=
  { operator with supervisor := operator.supervisor.taskEnded task operator.now ending }

/-- The program at time zero: all tasks have begun and the controllers want the identity. -/
def begin (settings : Settings) (script : Script) (controllers : List Controller)
    (services : Collection Topology.Service) (collections : List (Collection Metadata))
    (registrar : Registrar) : Operator where
  sim := { script, debouncer := { settings := settings.debouncer } }
  supervisor := .ofCount (2 * controllers.length + 1) 10000
  rules :=
    { port := settings.scanApi.port
      clusterScope := settings.scanApi.clusterScopeNamespace
      token := settings.dispatch.token }
  services
  collections
  monitors := controllers.map fun controller =>
    { controller, path := controller.kind.collection?.getD "" }
  registrar :=
    (List.range controllers.length).foldl (fun registrar caller => registrar.call caller 0)
      registrar

/-! ## Hearing the cluster -/

def hearServices (operator : Operator) : Operator :=
  let (serviceWatcher, services, events) :=
    operator.serviceWatcher.step operator.services operator.now
  events.foldl (fun operator event =>
    let (sync, edits) := operator.sync.handle operator.rules event
    let operator : Operator := { operator with sync }
    operator.withDebouncer (edits.foldl Debouncer.edit operator.debouncer))
    { operator with serviceWatcher, services }

/-- The collection at a path; one that is not scripted never replies. -/
def collectionAt (operator : Operator) (path : String) : Collection Metadata :=
  (operator.collections.find? (·.path == path)).getD { path }

/-- Puts a collection in the place of the one with its path. -/
def setCollection (operator : Operator) (collection : Collection Metadata) : Operator :=
  let others := operator.collections.filter (·.path != collection.path)
  { operator with collections := collection :: others }

def hearMonitor (operator : Operator) (index : Nat) : Operator :=
  match operator.monitors[index]? with
  | none => operator
  | some monitor =>
    if monitor.watcher.cue.all (operator.now < ·.1) then operator
    else
      let (watcher, collection, events) :=
        monitor.watcher.step (operator.collectionAt monitor.path) operator.now
      let operator := operator.setCollection collection
      let operator :=
        { operator with monitors := operator.monitors.set index { monitor with watcher } }
      operator.withDebouncer (events.foldl (fun debouncer event =>
        (monitor.controller.reconcileEvent debouncer event).1) operator.debouncer)

def tellIdentity (operator : Operator) (told : Nat × Identity.Answer) : Operator :=
  match operator.monitors[told.1]? with
  | none => operator
  | some monitor =>
    let moved (stand : Stand) : Operator :=
      { operator with monitors := operator.monitors.set told.1 { monitor with stand } }
    match monitor.controller.start operator.debouncer operator.now told.2 with
    | .error failure => (moved .over).taskEnded (controllerTask told.1) (.failed failure)
    | .ok (_, false) => (moved .over).taskEnded (controllerTask told.1) .completed
    | .ok (debouncer, true) => (moved .owner).withDebouncer debouncer

def hearIdentity (operator : Operator) : Operator :=
  let (registrar, told) := operator.registrar.hear operator.now
  told.foldl tellIdentity { operator with registrar }

/-- Everything is heard once. -/
def hear (operator : Operator) : Operator :=
  let operator := operator.hearIdentity.hearServices
  (List.range operator.monitors.length).foldl hearMonitor operator

/-- The times at which the cluster is heard next. -/
def cueTimes (operator : Operator) : List Nat :=
  operator.serviceWatcher.nextTime?.toList ++
    operator.monitors.filterMap (·.watcher.nextTime?) ++
    (operator.registrar.coming.map (·.1)).toList

/-- Everything is heard as often as something is due, at most the given number of times. -/
def hearAll : Nat → Operator → Operator
  | 0, operator => operator
  | count + 1, operator =>
    if operator.cueTimes.any (· ≤ operator.now) then hearAll count operator.hear else operator

/-- A bound on how often something can be heard. -/
def weight (operator : Operator) : Nat :=
  operator.services.weight + operator.serviceWatcher.weight +
    operator.collections.foldl (fun sum collection => sum + collection.weight) 0 +
    operator.monitors.foldl (fun sum monitor => sum + monitor.watcher.weight) 0 +
    operator.registrar.replies.length + 1

/-! ## Moments -/

/-- The controller that started the debouncer ends with the loop. -/
def reap (operator : Operator) : Operator :=
  match operator.debouncer.loop with
  | .ended =>
    operator.monitors.zipIdx.foldl (fun operator (monitor, index) =>
      if monitor.stand = .owner then
        ({ operator with monitors := operator.monitors.set index { monitor with stand := .over } } :
          Operator).taskEnded (controllerTask index) .completed
      else operator) operator
  | .absent | .idle _ _ | .draining _ _ => operator

/-- The tasks hear that they are to end: watches end at once, the loop of the debouncer is
cancelled; a controller that waits for the identity goes on waiting. -/
def endTasks (operator : Operator) : Operator :=
  let monitors := operator.monitors.map fun monitor =>
    { monitor with watcher := { monitor.watcher with cue := none } }
  let operator :=
    ({ operator with
        ending := true
        monitors
        serviceWatcher := { operator.serviceWatcher with cue := none } } :
      Operator).withDebouncer operator.debouncer.cancel
  let watches := operator.topologyTask :: (List.range monitors.length).map watchTask
  watches.foldl (fun operator task => operator.taskEnded task .completed) operator

/-- The debouncer does what is due, and ended tasks are told to the supervisor. -/
def work (operator : Operator) : Operator :=
  ({ operator with sim := operator.sim.settle } : Operator).reap

/-- The tasks end if the supervisor says so. -/
def heed (operator : Operator) : Operator :=
  if operator.supervisor.isCancelled && !operator.ending then operator.endTasks.work else operator

/-- The supervisor returns if the grace period is over; tasks that are left are aborted. -/
def expire (operator : Operator) : Operator :=
  let supervisor := match operator.supervisor.deadline? with
    | some deadline =>
      if deadline ≤ operator.now then operator.supervisor.expire operator.now
      else operator.supervisor
    | none => operator.supervisor
  { operator with
    supervisor
    registrar :=
      if supervisor.hasReturned then operator.registrar.close else operator.registrar }

def settle (operator : Operator) : Operator :=
  (hearAll operator.weight operator).work.heed.expire

def nextTime (operator : Operator) : Option Nat :=
  (operator.cueTimes ++ operator.sim.nextTime.toList ++
    operator.supervisor.deadline?.toList).min?

/-- Moves to a time and does what there is to do then. -/
def moveTo (operator : Operator) (time : Nat) : Operator :=
  ({ operator with sim := { operator.sim with now := time } } : Operator).settle

/-- Moves from event to event, at most the given number of times, up to a time. -/
def runTo (time : Nat) : Nat → Operator → Operator
  | 0, operator => operator.moveTo time
  | steps + 1, operator =>
    match operator.nextTime with
    | none => operator.moveTo time
    | some next =>
      if next < time then runTo time steps (operator.moveTo next) else operator.moveTo time

def advance (operator : Operator) (duration : Nat) : Operator :=
  runTo (operator.now + duration) duration operator

def signal (operator : Operator) : Operator :=
  ({ operator with supervisor := operator.supervisor.stop operator.now } : Operator).settle

/-- The program is told to end and is left the grace period for it. -/
def finish (operator : Operator) : Operator :=
  operator.signal.advance operator.supervisor.graceMs

def openLog (operator : Operator) : Operator := { operator with sim := operator.sim.openLog }

end Operator

end Rescan
