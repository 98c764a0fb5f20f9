import Rescan.Supervisor.Basic

/-! # Trials of the supervisor

In a trial the tasks behave as planned: a task ends by itself after some time, if ever, and
reacts to the order to end after some time, if at all. A trial moves from event to event; when
several fall on one time, tasks end first, in their order, then orders to end arrive, and the
grace period is over last.
-/

namespace Rescan.Supervisor

/-- The planned behaviour of a task. -/
structure Plan where
  name : String
  /-- When and how the task ends by itself. -/
  natural : Option (Nat × Ending) := none
  /-- How long after the order to end, and how, it ends; without a reaction it ignores the
  order. -/
  reaction : Option (Nat × Ending) := some (0, .completed)
  deriving DecidableEq, Repr

/-- What happens to a task. -/
inductive Happening where
  | started
  | cancelled
  | finished
  | aborted
  deriving DecidableEq, Repr

def Happening.word : Happening → String
  | .started => "started"
  | .cancelled => "cancelled"
  | .finished => "finished"
  | .aborted => "aborted"

/-- Something that happened to a task. -/
structure Entry where
  time : Nat
  name : String
  happening : Happening
  deriving DecidableEq, Repr

def Entry.le (a b : Entry) : Bool :=
  (compare a.time b.time |>.then (compare a.name b.name) |>.then
    (compare a.happening.word b.happening.word)).isLE

/-- A task of a trial. -/
structure Actor where
  number : Nat
  plan : Plan
  /-- When and how the task will end, as things are. -/
  fate : Option (Nat × Ending)
  deriving DecidableEq, Repr

/-- The tasks with some plans, numbered in their order. -/
def actorsOf (plans : List Plan) : List Actor :=
  plans.zipIdx.map fun (plan, number) => { number, plan, fate := plan.natural }

/-- A task that is told to end. From then on its reaction alone says when and how it ends: a plan
whose task would end by itself before it has reacted, or just when it is told, gives that end as the
reaction. -/
def Actor.told (actor : Actor) (now : Nat) : Actor :=
  match actor.plan.reaction with
  | some (delay, ending) => { actor with fate := some (now + delay, ending) }
  | none => actor

/-- A trial at a moment. -/
structure Trial where
  supervisor : Supervisor
  /-- The times at which the tasks are told to end from outside. -/
  stops : List Nat
  /-- The tasks that have not ended. -/
  actors : List Actor
  log : List Entry := []
  deriving DecidableEq, Repr

namespace Trial

/-- A trial at time zero. The tasks have begun. -/
def begin (plans : List Plan) (stops : List Nat) (graceMs : Nat) : Trial where
  supervisor := .ofCount plans.length graceMs
  stops
  actors := actorsOf plans
  log := plans.map fun plan => ⟨0, plan.name, .started⟩

def note (trial : Trial) (time : Nat) (actor : Actor) (happening : Happening) : Trial :=
  { trial with log := ⟨time, actor.plan.name, happening⟩ :: trial.log }

/-- The tasks that will end, as things are, with their ends. -/
def pending (trial : Trial) : List (Actor × Nat × Ending) :=
  trial.actors.filterMap fun actor => actor.fate.map fun fate => (actor, fate)

/-- Of the best so far and another end the earlier one. -/
def earlier (best : Option (Actor × Nat × Ending)) (candidate : Actor × Nat × Ending) :
    Option (Actor × Nat × Ending) :=
  match best with
  | some (_, time, _) => if candidate.2.1 < time then some candidate else best
  | none => some candidate

/-- The actor that ends first; of several, the first one. -/
def first? (trial : Trial) : Option (Actor × Nat × Ending) := trial.pending.foldl earlier none

def cancelAll (trial : Trial) (now : Nat) : Trial :=
  let reached := trial.actors.filter (·.plan.reaction.isSome)
  let trial := reached.foldl (fun trial actor => trial.note now actor .cancelled) trial
  { trial with actors := trial.actors.map (·.told now) }

def abortAll (trial : Trial) (now : Nat) : Trial :=
  let trial := trial.actors.foldl (fun trial actor => trial.note now actor .aborted) trial
  { trial with actors := [] }

/-- What follows when the supervisor changes: the order to end reaches the tasks, or they are
aborted. -/
def follow (trial : Trial) (supervisor : Supervisor) (now : Nat) : Trial :=
  let wasCancelled := trial.supervisor.isCancelled
  let trial := { trial with supervisor }
  if supervisor.hasReturned then trial.abortAll now
  else if supervisor.isCancelled && !wasCancelled then trial.cancelAll now
  else trial

/-- The tasks that are left when a task has ended. -/
def rest (trial : Trial) (actor : Actor) : List Actor :=
  trial.actors.filter (·.number != actor.number)

def finish (trial : Trial) (actor : Actor) (now : Nat) (ending : Ending) : Trial :=
  let trial := { trial.note now actor .finished with actors := trial.rest actor }
  trial.follow (trial.supervisor.taskEnded actor.number now ending) now

/-- The time at which something other than the end of a task happens to the supervisor, with what
it becomes. -/
def outside? (trial : Trial) : Option (Nat × Supervisor) :=
  match trial.supervisor.phase with
  | .running => trial.stops.min?.map fun time => (time, trial.supervisor.stop time)
  | .stopping _ => trial.supervisor.deadline?.map fun time => (time, trial.supervisor.expire time)
  | .returned _ => none

/-- The next event, as its time and the trial after it. -/
def event? (trial : Trial) : Option (Nat × Trial) :=
  match trial.first?, trial.outside? with
  | none, none => none
  | none, some (time, supervisor) => some (time, trial.follow supervisor time)
  | some (actor, time, ending), none => some (time, trial.finish actor time ending)
  | some (actor, time, ending), some (other, supervisor) =>
    if time ≤ other then some (time, trial.finish actor time ending)
    else some (other, trial.follow supervisor other)

def step (trial : Trial) : Trial :=
  match trial.event? with
  | some (_, next) => next
  | none => trial

/-- Moves through events, at most the given number. -/
def steps : Nat → Trial → Trial
  | 0, trial => trial
  | count + 1, trial => steps count trial.step

/-- A whole trial. Every task ends at most once, and the supervisor stops and expires at most
once. -/
def run (plans : List Plan) (stops : List Nat) (graceMs : Nat) : Trial :=
  steps (plans.length + 2) (begin plans stops graceMs)

def history (trial : Trial) : List Entry := trial.log.mergeSort Entry.le

def elapsed? (trial : Trial) : Option Nat :=
  match trial.supervisor.phase with
  | .returned time => some time
  | .running | .stopping _ => none

end Trial

end Rescan.Supervisor
