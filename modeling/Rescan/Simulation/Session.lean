import Rescan.Controller
import Rescan.Identity.Cell
import Rescan.Simulation.Basic
import Rescan.Topology.Sync

/-! # Sessions

A session is a debouncer in simulated time with everything around it: the services that fill its
registry, scripted identities of the cluster, and controllers that share it.
-/

namespace Rescan

open Rescan.Debounce (Debouncer)
open Rescan.Resource (Key)

namespace Simulation

/-- A scripted identity of the cluster. -/
structure ScriptedIdentity where
  /-- The answers in turn; the last one is repeated. -/
  answers : List Identity.Answer := []
  /-- Whether the first success is kept. -/
  cached : Bool := false
  cell : Identity.Cell := {}
  /-- How often the script was asked. -/
  calls : Nat := 0

namespace ScriptedIdentity

/-- Takes the next answer of the script. -/
def next (source : ScriptedIdentity) : ScriptedIdentity × Identity.Answer :=
  let index := min source.calls (source.answers.length - 1)
  ({ source with calls := source.calls + 1 }, source.answers.getD index (.ok none))

def ask (source : ScriptedIdentity) : ScriptedIdentity × Identity.Answer :=
  if source.cached then
    match source.cell.call 0 with
    | (_, .told uid) => (source, .ok uid)
    | (cell, _) =>
      let (source, answer) := source.next
      ({ source with cell := (cell.answer answer).1 }, answer)
  else source.next

end ScriptedIdentity

/-- A controller with where it asks for the identity. -/
structure Member where
  controller : Controller
  /-- The name of a scripted identity. -/
  identity : Option String := none
  /-- The identifier if no scripted identity is named. -/
  uid : Option String := none

end Simulation

/-- A debouncer in simulated time with everything around it. -/
structure Session where
  sim : Simulation := {}
  rules : Topology.Rules := {}
  sync : Topology.Sync := {}
  identities : List (String × Simulation.ScriptedIdentity) := []
  members : List (String × Simulation.Member) := []
  /-- The tasks of controllers that were set to run. -/
  tasks : List (String × Controller.Task) := []

namespace Session

open Simulation

instance : Inhabited Session := ⟨{}⟩

def debouncer (session : Session) : Debouncer := session.sim.debouncer

def withDebouncer (session : Session) (debouncer : Debouncer) : Session :=
  { session with sim := { session.sim with debouncer } }

/-- Carries out an action with a log of its own, and all that follows from it at once. -/
def carryOut {α : Type} (action : Session → Session × α) (session : Session) : Session × α :=
  let (session, result) := action { session with sim := session.sim.openLog }
  ({ session with sim := session.sim.settle }, result)

/-- An association put in the place of any other with its name. -/
def assign {α : Type} (name : String) (value : α) (entries : List (String × α)) :
    List (String × α) :=
  (name, value) :: entries.filter (·.1 != name)

/-! ## Targets -/

def edit (session : Session) (change : Topology.Registry.Edit) : Session :=
  session.withDebouncer (session.debouncer.edit change)

/-- Brings an event about a service to the registry. -/
def handleService (session : Session) (event : Resource.WatchEvent Topology.Service) : Session :=
  let (sync, edits) := session.sync.handle session.rules event
  edits.foldl edit { session with sync }

/-! ## Keys and drains -/

def add (session : Session) (key : Key) : Session × Bool :=
  let (debouncer, isNew) := session.debouncer.add key
  (session.withDebouncer debouncer, isNew)

/-- Adds keys, and counts those that are newly pending. -/
def addAll (session : Session) (keys : List Key) : Session × Nat :=
  keys.foldl (fun (session, count) key =>
    let (session, isNew) := session.add key
    (session, if isNew then count + 1 else count)) (session, 0)

def flush (session : Session) (attribution : Attribution) : Session × Option Debounce.Report :=
  let (sim, report) := session.sim.flush attribution
  ({ session with sim }, report)

def start (session : Session) (attribution : Attribution) :
    Session × Except Debounce.Fault Unit :=
  match session.debouncer.start session.sim.now attribution with
  | .ok debouncer => (session.withDebouncer debouncer, .ok ())
  | .error fault => (session, .error fault)

def cancel (session : Session) : Session := session.withDebouncer session.debouncer.cancel

def advance (session : Session) (duration : Nat) : Session :=
  { session with sim := session.sim.advance duration }

def measure (session : Session) (change : Telemetry.Meter → Telemetry.Meter) : Session :=
  session.withDebouncer { session.debouncer with meter := change session.debouncer.meter }

/-! ## Identities and controllers -/

def setIdentity (session : Session) (name : String) (source : ScriptedIdentity) : Session :=
  { session with identities := assign name source session.identities }

/-- Asks a scripted identity, if there is one of that name. -/
def ask (session : Session) (name : String) : Session × Option (Identity.Answer × Nat) :=
  match session.identities.lookup name with
  | none => (session, none)
  | some source =>
    let (source, answer) := source.ask
    (session.setIdentity name source, some (answer, source.calls))

def askFor (session : Session) (member : Member) : Session × Identity.Answer :=
  match member.identity.map session.ask with
  | some (session, some (answer, _)) => (session, answer)
  | _ => (session, .ok member.uid)

def setMember (session : Session) (name : String) (member : Member) : Session :=
  { session with members := assign name member session.members }

def member? (session : Session) (name : String) : Option Member := session.members.lookup name

/-- Starts a controller. The result tells whether it started the debouncer. -/
def startMember (session : Session) (member : Member) : Session × Except Failure Bool :=
  let (session, answer) := session.askFor member
  match member.controller.start session.debouncer session.sim.now answer with
  | .ok (debouncer, isOwner) => (session.withDebouncer debouncer, .ok isOwner)
  | .error failure => (session, .error failure)

def runMember (session : Session) (name : String) (member : Member) : Session :=
  let (session, started) := session.startMember member
  { session with tasks := assign name (.ofStart started) session.tasks }

/-- How the run of a controller ended. -/
inductive RunState where
  /-- It did not run, or its end was told before. -/
  | unknown
  | running
  | finished (result : Except Failure Unit)

/-- Tells once how the run of a controller ended. -/
def takeRun (session : Session) (name : String) : Session × RunState :=
  match session.tasks.lookup name with
  | none => (session, .unknown)
  | some task =>
    match task.result? session.debouncer with
    | some result =>
      ({ session with tasks := session.tasks.filter (·.1 != name) }, .finished result)
    | none => (session, .running)

def reconcile (session : Session) (member : Member) (notice : Resource.Notice) :
    Session × Controller.Outcome :=
  let (debouncer, outcome) := member.controller.reconcile session.debouncer notice
  (session.withDebouncer debouncer, outcome)

/-- Brings a report of a watch to a controller. -/
def reconcileEvent (session : Session) (member : Member)
    (event : Resource.WatchEvent Resource.Metadata) : Session × Option Controller.Outcome :=
  let (debouncer, outcome) := member.controller.reconcileEvent session.debouncer event
  (session.withDebouncer debouncer, outcome)

end Session

end Rescan
