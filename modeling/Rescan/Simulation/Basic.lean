import Rescan.Debounce.Debouncer
import Rescan.Delivery.Request

/-! # A debouncer in simulated time

Time stands still while there is anything to do and then moves on to the next event: the end of
a delivery or a tick. What is sent and what ends is logged. Deliveries are scripted: a script says
how long the delivery of a request takes and how it ends. The first rule that speaks about the
request decides; a request that no rule speaks about is delivered at once.
-/

namespace Rescan

open Rescan.Debounce (Debouncer Dispatch Outcome Report Ticker)

namespace Simulation

/-- How the requests with certain texts are delivered. -/
structure Rule where
  key : Option String := none
  kind : Option String := none
  ns : Option String := none
  name : Option String := none
  outcome : Outcome := .success
  delayMs : Nat := 0
  deriving DecidableEq, Repr

/-- Whether a rule speaks about a request: all texts that it gives are those of the request. -/
def Rule.speaksAbout (rule : Rule) (request : Delivery.Request) : Bool :=
  rule.key.all (· == request.resourceKey) && rule.kind.all (· == request.kind) &&
    rule.ns.all (· == request.ns) && rule.name.all (· == request.name)

/-- Rules, the first ones first. -/
abbrev Script := List Rule

/-- How long the delivery of a request takes, and how it ends. -/
def Script.decide (script : Script) (request : Delivery.Request) : Nat × Outcome :=
  match script.find? (·.speaksAbout request) with
  | some rule => (rule.delayMs, rule.outcome)
  | none => (0, .success)

/-- A delivery under way. -/
structure Flight where
  /-- The number of the dispatch. -/
  number : Nat
  landsAt : Nat
  outcome : Outcome
  deriving DecidableEq, Repr

/-- A request that was sent. -/
structure Sent where
  time : Nat
  target : Topology.Target
  request : Delivery.Request
  deriving DecidableEq, Repr

/-- What happened over a stretch of time. -/
structure Log where
  sent : List Sent := []
  /-- How many deliveries ended. -/
  completed : Nat := 0
  /-- The most deliveries that were under way at once. -/
  peak : Nat := 0
  deriving DecidableEq, Repr, Inhabited

end Simulation

/-- A debouncer at a moment of simulated time. -/
structure Simulation where
  script : Simulation.Script := []
  /-- The time in milliseconds. -/
  now : Nat := 0
  debouncer : Debouncer := {}
  flights : List Simulation.Flight := []
  log : Simulation.Log := {}

namespace Simulation

instance : Inhabited Simulation := ⟨{}⟩

def openLog (sim : Simulation) : Simulation :=
  { sim with log := { peak := sim.flights.length } }

def land (sim : Simulation) (flight : Flight) : Simulation :=
  { sim with
    debouncer := sim.debouncer.land flight.number flight.outcome
    log := { sim.log with completed := sim.log.completed + 1 } }

/-- Lets all deliveries end whose time has come. -/
def landDue (sim : Simulation) : Simulation :=
  let (due, rest) := sim.flights.partition (·.landsAt ≤ sim.now)
  due.foldl land { sim with flights := rest }

/-- Gives a launched dispatch its turn. A delivery that takes no time ends at once. -/
def send (sim : Simulation) (dispatch : Dispatch) : Simulation :=
  match sim.debouncer.send dispatch with
  | (debouncer, none) => { sim with debouncer }
  | (debouncer, some (target, request)) =>
    let (delay, outcome) := sim.script.decide request
    let flight : Flight := ⟨dispatch.number, sim.now + delay, outcome⟩
    let log : Log := { sim.log with
      sent := ⟨sim.now, target, request⟩ :: sim.log.sent
      peak := max sim.log.peak (sim.flights.length + 1) }
    if delay = 0 then ({ sim with debouncer, log }).land flight
    else { sim with debouncer, log, flights := sim.flights ++ [flight] }

/-- Every drain goes on, and every dispatch it launches has its turn. -/
def round (sim : Simulation) : Simulation :=
  let sites := .loop :: (List.range sim.debouncer.calls.length).map .call
  let debouncer := sites.foldl Debouncer.poll sim.debouncer
  let launched := debouncer.dispatches.filter Dispatch.isLaunched
  launched.foldl send { sim with debouncer }

/-- Rounds, at most the given number, as long as the last one made dispatches end. -/
def rounds : Nat → Simulation → Simulation
  | 0, sim => sim
  | count + 1, sim =>
    let sim := sim.round
    if sim.debouncer.dispatches.all Dispatch.isUnfinished then sim else rounds count sim

/-- How many keys the drains have still to account for. -/
def outstanding (sim : Simulation) : Nat :=
  ((sim.debouncer.drain? .loop).toList ++ sim.debouncer.calls).foldl (fun sum drain =>
    sum + drain.waiting.length + drain.dispatches.length) 0

/-- All drains get as far as they can at this time. -/
def progress (sim : Simulation) : Simulation :=
  let sim := rounds (sim.outstanding + 1) sim
  { sim with debouncer := sim.debouncer.closeLoop }

def hasDueTick (sim : Simulation) : Bool :=
  match sim.debouncer.loop with
  | .idle _ ticker => ticker.due ≤ sim.now
  | .absent | .draining _ _ | .ended => false

/-- Serves the ticks that are due, at most the given number. -/
def ticks : Nat → Simulation → Simulation
  | 0, sim => sim.progress
  | count + 1, sim =>
    let sim := sim.progress
    if sim.hasDueTick then ticks count { sim with debouncer := sim.debouncer.tick sim.now }
    else sim

/-- Does all there is to do at this time. A late ticker serves the missed ticks it tolerates one
after the other, so that their number is bounded. -/
def settle (sim : Simulation) : Simulation :=
  let sim := { sim with debouncer := sim.debouncer.heed }
  ticks (Ticker.tolerance + 2) sim.landDue

def nextTime (sim : Simulation) : Option Nat :=
  let landings := sim.flights.map (·.landsAt)
  match sim.debouncer.loop with
  | .idle _ ticker => (ticker.due :: landings).min?
  | .absent | .draining _ _ | .ended => landings.min?

/-- Moves to a time and does what there is to do then. -/
def moveTo (sim : Simulation) (time : Nat) : Simulation := ({ sim with now := time }).settle

/-- Moves from event to event, at most the given number of times, up to a time. -/
def runTo (time : Nat) : Nat → Simulation → Simulation
  | 0, sim => sim.moveTo time
  | steps + 1, sim =>
    match sim.nextTime with
    | none => sim.moveTo time
    | some next => if next < time then runTo time steps (sim.moveTo next) else sim.moveTo time

def advance (sim : Simulation) (duration : Nat) : Simulation :=
  runTo (sim.now + duration) duration sim

/-- The time after which a caller gives up its drain. -/
def patience : Nat := 3600000

/-- Waits for the report of the drain of a caller, moving from event to event at most the given
number of times, and gives up the drain at the deadline. -/
def await (index deadline : Nat) : Nat → Simulation → Simulation × Option Report
  | 0, sim => ({ sim with debouncer := sim.debouncer.abandonCall index }, none)
  | steps + 1, sim =>
    match sim.debouncer.closeCall index with
    | (debouncer, some report) => ({ sim with debouncer }, some report)
    | (_, none) =>
      match sim.nextTime with
      | some next =>
        if next ≤ deadline then await index deadline steps (sim.moveTo next)
        else
          let sim := sim.moveTo deadline
          ({ sim with debouncer := sim.debouncer.abandonCall index }, none)
      | none =>
        let sim := sim.moveTo deadline
        ({ sim with debouncer := sim.debouncer.abandonCall index }, none)

/-- A caller drains and waits for the report. There is none if the drain never completes. -/
def flush (sim : Simulation) (attribution : Rescan.Attribution) : Simulation × Option Report :=
  let index := sim.debouncer.calls.length
  let sim := ({ sim with debouncer := sim.debouncer.call attribution }).settle
  await index (sim.now + patience) (patience + 1) sim

end Simulation

end Rescan
