import Rescan.Resource.Key
import Rescan.Settings.Basic

/-! # The queue of pending keys

A debouncer collects keys before it is started, hands them out while it runs, and ignores them
once it is stopped. It can be started at most once, and only with settings that pass their
check. A key is pending once however often it is added. Keys are handed out all together, in the
order in which they were added. A stopped queue is empty and stays so.
-/

namespace Rescan.Debounce

open Rescan.Resource (Key)

/-- How far the debouncer has come in its life. -/
inductive Phase where
  /-- Not started; keys are collected. -/
  | uninitialized
  /-- Started; keys are collected and handed out at every tick. -/
  | running
  /-- Stopped for good; keys are ignored. -/
  | stopped
  deriving DecidableEq, Repr, Inhabited

def Phase.word : Phase → String
  | .uninitialized => "uninitialized"
  | .running => "running"
  | .stopped => "stopped"

/-- Why a debouncer does not start. -/
inductive Fault where
  /-- It was started before; the phase is the one it is in. -/
  | alreadyStarted (phase : Phase)
  /-- Its settings do not pass their check. -/
  | invalidSettings (fault : Settings.Fault)
  deriving DecidableEq, Repr

def Fault.message : Fault → String
  | .alreadyStarted phase => "Debouncer already started (state: " ++ phase.word ++ ")"
  | .invalidSettings fault => "Invalid debouncer configuration: " ++ fault.message

/-- The phase of a debouncer with the keys that wait for its next drain. -/
structure Queue where
  phase : Phase
  keys : List Key
  nodup : keys.Nodup
  keys_eq_nil : phase = .stopped → keys = []

namespace Queue

def empty (phase : Phase) : Queue := ⟨phase, [], .nil, fun _ => rfl⟩

instance : Inhabited Queue := ⟨empty .uninitialized⟩

def isPending (queue : Queue) (key : Key) : Bool := queue.keys.contains key

/-- The number of keys that wait for the next drain. -/
def size (queue : Queue) : Nat := queue.keys.length

/-- Whether keys are still taken in. -/
def accepts (queue : Queue) : Bool := queue.phase != .stopped

/-- The queue with one more key, and whether the key was not pending before. A stopped queue
ignores it. -/
def add (queue : Queue) (key : Key) : Queue × Bool :=
  if stopped : queue.phase = .stopped then (queue, false)
  else if pending : key ∈ queue.keys then (queue, false)
  else
    ({ phase := queue.phase
       keys := queue.keys ++ [key]
       nodup := List.nodup_append.mpr ⟨queue.nodup, List.nodup_cons.mpr ⟨nofun, .nil⟩,
        fun _ hother _ hlast heq => pending (List.mem_singleton.mp hlast ▸ heq ▸ hother)⟩
       keys_eq_nil := fun h => absurd h stopped }, true)

/-- The emptied queue, and the keys that were pending, in the order in which they were added. No
order is promised: keys that are added between two hand-outs can be added in any order, which
changes nothing but the order in which they are handed out. So every order is reached by a run. -/
def take (queue : Queue) : Queue × List Key :=
  (empty queue.phase, queue.keys)

/-- The running queue, unless it was started before. -/
def start (queue : Queue) : Except Fault Queue :=
  if queue.phase = .uninitialized then
    .ok { queue with phase := .running, keys_eq_nil := nofun }
  else .error (.alreadyStarted queue.phase)

/-- The stopped queue; what was pending is discarded. -/
def stop (_ : Queue) : Queue := empty .stopped

end Queue

end Rescan.Debounce
