import Rescan.Debounce.Debouncer
import Rescan.Proofs.Steps

/-! # Runs of a debouncer

A run is any sequence of moves: producers add keys, the registry is edited, the loop and callers
drain, dispatches are sent and land, all in any order. What a run does is told by its history,
which collects an observation of each of its moves.
-/

namespace Rescan.Debounce

open Rescan.Resource (Key)
open Rescan.Telemetry (Meter)
open Rescan.Topology (Registry Target)

/-- One step of a debouncer, with what its surroundings decide about it. -/
inductive Move where
  | add (key : Key)
  | edit (change : Registry.Edit)
  | start (now : Nat) (attribution : Attribution)
  | cancel
  | heed
  | tick (now : Nat)
  | call (attribution : Attribution)
  | poll (site : Debouncer.Site)
  | closeLoop
  | closeCall (index : Nat)
  | abandonCall (index : Nat)
  | send (dispatch : Dispatch)
  | land (dispatch : Dispatch) (outcome : Outcome)
  deriving DecidableEq, Repr

namespace Debouncer

/-- A debouncer that has not done anything yet. -/
def new (settings : Settings.Debouncer) (registry : Registry) (meter : Meter) : Debouncer :=
  { settings, registry, meter }

/-- The unfinished drains. -/
def drains (debouncer : Debouncer) : List Drain :=
  (debouncer.drain? .loop).toList ++ debouncer.calls

/-- The debouncer after a move. A start that fails changes nothing. A dispatch is sent once,
after it is launched, and lands once, after it is sent; only sending finds that there is no
target. -/
def step (debouncer : Debouncer) : Move → Debouncer
  | .add key => (debouncer.add key).1
  | .edit change => debouncer.edit change
  | .start now attribution =>
    match debouncer.start now attribution with
    | .ok started => started
    | .error _ => debouncer
  | .cancel => debouncer.cancel
  | .heed => debouncer.heed
  | .tick now => debouncer.tick now
  | .call attribution => debouncer.call attribution
  | .poll site => debouncer.poll site
  | .closeLoop => debouncer.closeLoop
  | .closeCall index => (debouncer.closeCall index).1
  | .abandonCall index => debouncer.abandonCall index
  | .send dispatch =>
    if dispatch ∈ debouncer.dispatches ∧ dispatch.stage = .launched then
      (debouncer.send dispatch).1
    else debouncer
  | .land dispatch outcome =>
    if dispatch ∈ debouncer.dispatches ∧ dispatch.stage = .sent ∧ outcome ≠ .noTarget then
      debouncer.land dispatch.number outcome
    else debouncer

/-- The debouncer after a sequence of moves. -/
abbrev run (debouncer : Debouncer) (moves : List Move) : Debouncer := Steps.run step debouncer moves

/-- What is observed of the moves of a run, in order. -/
abbrev history {α : Type} (observe : Debouncer → Move → List α) (debouncer : Debouncer)
    (moves : List Move) : List α :=
  Steps.history step observe debouncer moves

/-! ## Observations -/

/-- The key that a move adds with the answer that it was not pending before. -/
def accepted (debouncer : Debouncer) : Move → List Key
  | .add key => if (debouncer.add key).2 then [key] else []
  | _ => []

/-- The dispatches that a move launches: those with numbers that were not in use before. -/
def launched (debouncer : Debouncer) (move : Move) : List Dispatch :=
  (debouncer.step move).dispatches.filter fun dispatch => debouncer.launches ≤ dispatch.number

/-- The keys that a move discards. When the loop ends these are the pending keys and those that
wait in its drain, when a caller gives up its drain those that wait in it. -/
def discarded (debouncer : Debouncer) : Move → List Key
  | .heed =>
    if debouncer.loop ≠ .ended ∧ debouncer.heed.loop = .ended then
      debouncer.queue.keys ++ (debouncer.drain? .loop).toList.flatMap Drain.waiting
    else []
  | .abandonCall index => debouncer.calls[index]?.toList.flatMap Drain.waiting
  | _ => []

/-- The keys of the drain that a move begins. -/
def begun (debouncer : Debouncer) : Move → List (List Key)
  | .tick now =>
    match debouncer.loop, (debouncer.tick now).loop with
    | .idle _ _, .draining _ drain => [drain.waiting]
    | _, _ => []
  | .call attribution => [(debouncer.take attribution).2.waiting]
  | _ => []

/-- The dispatch that a move hands to the dispatcher, with its target and its request. -/
def handed (debouncer : Debouncer) : Move → List (Dispatch × Target × Delivery.Request)
  | .send dispatch =>
    if dispatch ∈ debouncer.dispatches ∧ dispatch.stage = .launched then
      (debouncer.send dispatch).2.toList.map (dispatch, ·)
    else []
  | _ => []

end Debouncer

end Rescan.Debounce
