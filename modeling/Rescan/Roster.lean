import Rescan.Resource.ObjectType

/-! # The roster of tasks

Each kind that is watched takes two tasks: one that brings changes to the debouncer and one that
watches the objects. One more task follows the services of scan APIs.
-/

namespace Rescan

open Rescan.Resource (Kind ObjectType)

/-- A task of the program. -/
inductive Runnable where
  /-- Brings the changes of a kind to the debouncer. -/
  | monitor (kind : Kind)
  /-- Watches the objects of a kind. -/
  | watch (kind : Kind)
  /-- Follows the services of scan APIs. -/
  | topology
  deriving DecidableEq, Repr

def Runnable.name : Runnable → String
  | .monitor kind => "resource-monitor/" ++ kind.name
  | .watch kind => "watch/" ++ kind.name
  | .topology => "scan-api-watcher"

/-- The tasks to run, in order. -/
structure Roster where
  runnables : List Runnable := []
  deriving DecidableEq, Repr, Inhabited

namespace Roster

def size (roster : Roster) : Nat := roster.runnables.length

def add (roster : Roster) (runnable : Runnable) : Roster := ⟨roster.runnables ++ [runnable]⟩

/-- Adds the two tasks for the objects of a type. -/
def enlist (roster : Roster) (type : ObjectType) : Roster × Except Resource.Fault Kind :=
  match type.kind with
  | .error fault => (roster, .error fault)
  | .ok kind => ((roster.add (.monitor kind)).add (.watch kind), .ok kind)

/-- Adds the two tasks for a kind as it is named in settings. A kind that cannot be watched adds
none. -/
def register (roster : Roster) (setting : String) : Roster × Except Resource.Fault Kind :=
  match Kind.ofSetting setting with
  | .error fault => (roster, .error fault)
  | .ok kind =>
    match ObjectType.ofKind? kind with
    | none => (roster, .error (.unknownKind setting))
    | some type => roster.enlist type

/-- Adds the tasks for several kinds; the results tell the kinds and faults in order. -/
def registerAll (roster : Roster) (settings : List String) :
    Roster × List (Except Resource.Fault Kind) :=
  settings.foldl (fun (roster, results) setting =>
    let (roster, result) := roster.register setting
    (roster, results ++ [result])) (roster, [])

end Roster

end Rescan
