import Rescan.Resource.Change

/-! # Watches on a scripted cluster

A watch lists the objects of a collection page by page and then follows their changes. When a
list fails it begins anew; when the changes cannot be followed it asks for them again. After a
failure it waits before it goes on, longer each time. A collection replies as scripted; once its
script is used up a request waits for ever.
-/

namespace Rescan.Simulation

open Rescan.Resource (WatchEvent)

/-- A part of a list. -/
structure Page (α : Type) where
  items : List α
  /-- Whether another part follows. -/
  more : Bool := false

/-- A piece of news while changes are followed. -/
inductive News (α : Type) where
  | event (event : WatchEvent α)
  /-- The cluster reports an error with a code. -/
  | error (code : Nat)

/-- News, each so long after the one before, and whether they come to an end. -/
structure Flow (α : Type) where
  news : List (Nat × News α)
  closes : Bool := false

/-- A reply that takes some time. No content is a failure. -/
structure Reply (α : Type) where
  after : Nat := 0
  content : Option α

/-- A scripted collection, with how often it was asked. -/
structure Collection (α : Type) where
  path : String
  pages : List (Reply (Page α)) := []
  flows : List (Reply (Flow α)) := []
  listsAsked : Nat := 0
  watchesAsked : Nat := 0

/-- What a watch asks for next. -/
inductive Need where
  | firstPage
  | nextPage
  | changes
  deriving DecidableEq, Repr

/-- What happens next to a watch. -/
inductive Cue (α : Type) where
  /-- It asks for what it needs. -/
  | ask
  | page (content : Option (Page α))
  | flow (content : Option (Flow α))
  /-- The first news of a flow come. -/
  | news (flow : Flow α)

/-- A watch at a moment. -/
structure Watcher (α : Type) where
  need : Need := .firstPage
  /-- How many failures there were since the last success. -/
  failures : Nat := 0
  /-- What happens next, and when. Without a cue the watch waits for ever. -/
  cue : Option (Nat × Cue α) := some (0, .ask)

namespace Collection

variable {α : Type}

def askPage (collection : Collection α) : Collection α × Option (Reply (Page α)) :=
  ({ collection with
      pages := collection.pages.tail
      listsAsked := collection.listsAsked + 1 }, collection.pages.head?)

def askFlow (collection : Collection α) : Collection α × Option (Reply (Flow α)) :=
  ({ collection with
      flows := collection.flows.tail
      watchesAsked := collection.watchesAsked + 1 }, collection.flows.head?)

/-- A bound on the cues that the rest of the script can give. -/
def weight (collection : Collection α) : Nat :=
  2 * collection.pages.length +
    collection.flows.foldl (fun sum reply =>
      sum + 2 + (reply.content.map (·.news.length)).getD 0) 0

end Collection

namespace Watcher

variable {α : Type}

/-- The longest time that a watch waits after a number of failures in a row. -/
def patience (failures : Nat) : Nat := min (1600 * Nat.pow 2 failures) 60000

/-- A bound on the cues that follow without another reply. -/
def weight (watcher : Watcher α) : Nat :=
  match watcher.cue with
  | none => 0
  | some (_, .ask) => 1
  | some (_, .page _) => 2
  | some (_, .flow content) => 2 + (content.map (·.news.length)).getD 0
  | some (_, .news flow) => 1 + flow.news.length

/-- The watch waits after a failure and then asks for what it needs. -/
def retry (watcher : Watcher α) (now : Nat) (need : Need) : Watcher α :=
  { need, failures := watcher.failures + 1, cue := some (now + patience watcher.failures, .ask) }

/-- The watch follows a flow, the next news of which are not handled before a given time. -/
def follow (watcher : Watcher α) (now earliest : Nat) (flow : Flow α) : Watcher α :=
  match flow.news with
  | (delay, _) :: _ => { watcher with cue := some (max earliest (now + delay), .news flow) }
  | [] => { watcher with cue := if flow.closes then some (earliest, .ask) else none }

def ask (watcher : Watcher α) (collection : Collection α) (now : Nat) :
    Watcher α × Collection α × List (WatchEvent α) :=
  match watcher.need with
  | .changes =>
    let (collection, reply) := collection.askFlow
    ({ watcher with cue := reply.map fun reply => (now + reply.after, .flow reply.content) },
      collection, [])
  | need =>
    let (collection, reply) := collection.askPage
    ({ watcher with cue := reply.map fun reply => (now + reply.after, .page reply.content) },
      collection, if need = .firstPage then [.listBegins] else [])

def receivePage (watcher : Watcher α) (now : Nat) :
    Option (Page α) → Watcher α × List (WatchEvent α)
  | none => (watcher.retry now .firstPage, [])
  | some page =>
    let listed := page.items.map .listed
    if page.more then ({ need := .nextPage, cue := some (now, .ask) }, listed)
    else ({ need := .changes, cue := some (now, .ask) }, listed ++ [.listEnds])

def receiveNews (watcher : Watcher α) (now : Nat) (flow : Flow α) :
    Watcher α × List (WatchEvent α) :=
  match flow.news with
  | [] => (watcher.follow now now flow, [])
  | (_, .event event) :: rest =>
    (({ watcher with failures := 0 } : Watcher α).follow now now { flow with news := rest },
      [event])
  | (_, .error code) :: rest =>
    if code = 410 then (watcher.retry now .firstPage, [])
    else
      let waited := watcher.retry now .changes
      (waited.follow now (now + patience watcher.failures) { flow with news := rest }, [])

/-- What is due at a time happens. The events are passed on. -/
def step (watcher : Watcher α) (collection : Collection α) (now : Nat) :
    Watcher α × Collection α × List (WatchEvent α) :=
  match watcher.cue with
  | none => (watcher, collection, [])
  | some (time, cue) =>
    if now < time then (watcher, collection, [])
    else
      match cue with
      | .ask => watcher.ask collection now
      | .page content =>
        let (watcher, events) := watcher.receivePage now content
        (watcher, collection, events)
      | .flow none => (watcher.retry now .changes, collection, [])
      | .flow (some flow) => (watcher.follow now now flow, collection, [])
      | .news flow =>
        let (watcher, events) := watcher.receiveNews now flow
        (watcher, collection, events)

def nextTime? (watcher : Watcher α) : Option Nat := watcher.cue.map (·.1)

end Watcher

end Rescan.Simulation
