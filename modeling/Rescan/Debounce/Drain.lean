import Rescan.Attribution
import Rescan.Debounce.Report
import Rescan.Delivery.Request

/-! # Drains

A drain hands out keys. Each key has a dispatch of its own; at most a given number of dispatches
are under way at once. A dispatch that is launched finds the target of its namespace, sends its
request and ends with an outcome. The drain collects the outcomes of ended dispatches, launches
further ones in their place, and is complete when no key waits and no dispatch is left.
-/

namespace Rescan.Debounce

open Rescan.Resource (Key)

/-- How far a dispatch has come. -/
inductive Stage where
  /-- Its turn has not come yet. -/
  | launched
  /-- Its request is under way. -/
  | sent
  | ended (outcome : Outcome)
  deriving DecidableEq, Repr

/-- The dispatch of one key. -/
structure Dispatch where
  /-- Tells the dispatches of a debouncer apart. -/
  number : Nat
  key : Key
  attribution : Attribution
  stage : Stage := .launched
  deriving DecidableEq, Repr

namespace Dispatch

def request (dispatch : Dispatch) : Delivery.Request := .ofKey dispatch.key dispatch.attribution

def outcome? (dispatch : Dispatch) : Option Outcome :=
  match dispatch.stage with
  | .ended outcome => some outcome
  | .launched | .sent => none

/-- Whether the turn of a dispatch has not come yet. -/
def isLaunched (dispatch : Dispatch) : Bool := dispatch.stage == .launched

/-- Whether a dispatch is still to end. -/
def isUnfinished (dispatch : Dispatch) : Bool := dispatch.outcome?.isNone

/-- A dispatch moved to a stage if it has the given number. -/
def advance (number : Nat) (stage : Stage) (dispatch : Dispatch) : Dispatch :=
  if dispatch.number = number then { dispatch with stage } else dispatch

end Dispatch

/-- One hand-out of keys. -/
structure Drain where
  attribution : Attribution
  /-- The keys without a dispatch yet. -/
  waiting : List Key
  /-- The dispatches whose outcomes are not collected yet. -/
  dispatches : List Dispatch := []
  /-- The outcomes collected so far. -/
  report : Report
  deriving DecidableEq, Repr

namespace Drain

/-- The drain of some keys, before any dispatch is launched. -/
def ofKeys (attribution : Attribution) (keys : List Key) : Drain where
  attribution
  waiting := keys
  report := { drained := keys.length }

/-- Collects the outcomes of the dispatches that have ended. -/
def collect (drain : Drain) : Drain :=
  { drain with
    dispatches := drain.dispatches.filter Dispatch.isUnfinished
    report := (drain.dispatches.filterMap Dispatch.outcome?).foldl Report.note drain.report }

/-- How many dispatches can be launched if at most `limit` may be under way. -/
def room (limit : Nat) (drain : Drain) : Nat :=
  min (limit - drain.dispatches.length) drain.waiting.length

/-- Launches as many dispatches as there is room for, in the order in which the keys were handed
out. They are numbered from `first` on. -/
def launch (limit first : Nat) (drain : Drain) : Drain :=
  let room := drain.room limit
  { drain with
    waiting := drain.waiting.drop room
    dispatches := drain.dispatches ++ (drain.waiting.take room).zipIdx.map fun (key, index) =>
      { number := first + index, key, attribution := drain.attribution } }

/-- Moves the dispatch with the given number to a stage. -/
def advance (number : Nat) (stage : Stage) (drain : Drain) : Drain :=
  { drain with dispatches := drain.dispatches.map (Dispatch.advance number stage) }

/-- Whether every key has had its outcome collected. -/
def isComplete (drain : Drain) : Bool := drain.waiting.isEmpty && drain.dispatches.isEmpty

end Drain

end Rescan.Debounce
