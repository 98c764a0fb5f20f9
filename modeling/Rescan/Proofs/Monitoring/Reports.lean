import Rescan.Proofs.Monitoring.Outcome
import Rescan.Proofs.Topology.Following
import Rescan.Simulation.Operator

/-! # Reports of watches

The controllers of any number of kinds bring what their watches deliver to one debouncer. An object
that is listed or applied has its key added, and nothing else that a watch delivers changes
anything.
-/

namespace Rescan

open Rescan.Debounce (Debouncer)
open Rescan.Resource (Key Metadata Notice WatchEvent)

namespace Controller

/-- A controller as it is set up for a kind: only removals do not concern it, and each object has a
key of its own. -/
structure Standard (controller : Controller) : Prop where
  accepts_eq : controller.accepts = Notice.warrantsScan
  keyOf_eq : controller.keyOf = fun kind notice => .ofKind kind notice.ns notice.name

/-- The key of an object of the kind of a controller. -/
def objectKey (controller : Controller) (object : Metadata) : Key :=
  ⟨controller.kind.name, object.ns.getD "", object.anyName⟩

section Reports

variable {controller : Controller} (debouncer : Debouncer)

/-- The key of an object that is listed or applied is added. -/
theorem Standard.reconcileEvent_announced (hstandard : controller.Standard)
    {event : WatchEvent Metadata} {object : Metadata} (hevent : event.announced? = some object) :
    controller.reconcileEvent debouncer event =
      ((debouncer.add (controller.objectKey object)).1,
        some (if (debouncer.add (controller.objectKey object)).2 then
            .queued (controller.objectKey object)
          else .coalesced (controller.objectKey object))) := by
  have hreconcile (change : Resource.Change) (hchange : change ≠ .delete) :
      controller.reconcile debouncer (Notice.ofObject object change) =
        ((debouncer.add (controller.objectKey object)).1,
          if (debouncer.add (controller.objectKey object)).2 then
            .queued (controller.objectKey object)
          else .coalesced (controller.objectKey object)) := by
    have haccepts : controller.accepts (Notice.ofObject object change) = true := by
      rw [hstandard.accepts_eq]
      exact bne_iff_ne.mpr hchange
    rw [reconcile_of_accepts haccepts, hstandard.keyOf_eq]
    rfl
  cases event with
  | listed object =>
      cases hevent
      rw [reconcileEvent, Notice.ofEvent?]
      dsimp only
      rw [hreconcile .create (by decide)]
  | applied object =>
      cases hevent
      rw [reconcileEvent, Notice.ofEvent?]
      dsimp only
      rw [hreconcile .update (by decide)]
  | listBegins => cases hevent
  | listEnds => cases hevent
  | deleted object => cases hevent

/-- The removal of an object is passed over. -/
theorem Standard.reconcileEvent_deleted (hstandard : controller.Standard) (object : Metadata) :
    controller.reconcileEvent debouncer (.deleted object) = (debouncer, some .filtered) := by
  have haccepts : controller.accepts (Notice.ofObject object .delete) = false := by
    rw [hstandard.accepts_eq]
    rfl
  rw [reconcileEvent, Notice.ofEvent?]
  dsimp only
  rw [reconcile_of_not_accepts haccepts]

end Reports

end Controller

/-! ## Runs -/

namespace Monitoring

/-- One step of a debouncer to which the controllers of any number of kinds bring what their watches
deliver. -/
inductive Move where
  /-- A watch delivers an event to its controller. -/
  | report (controller : Controller) (event : WatchEvent Metadata)
    (hstandard : controller.Standard := by exact ⟨rfl, rfl⟩)
  /-- A watch delivers an error. -/
  | failure (controller : Controller)
  /-- The debouncer makes a move that adds no key. -/
  | other (move : Debounce.Move) (hmove : ∀ key, move ≠ .add key := by simp)

/-- The debouncer after a move. -/
def step (debouncer : Debouncer) : Move → Debouncer
  | .report controller event _ => (controller.reconcileEvent debouncer event).1
  | .failure _ => debouncer
  | .other move _ => debouncer.step move

/-- The debouncer after a sequence of moves. -/
abbrev run (debouncer : Debouncer) (moves : List Move) : Debouncer := Steps.run step debouncer moves

/-- The keys of the drain that a move begins. -/
def begun (debouncer : Debouncer) : Move → List (List Key)
  | .report _ _ _ | .failure _ => []
  | .other move _ => debouncer.begun move

/-- The key of the object that a move reports to be there. -/
def Move.key? : Move → Option Key
  | .report controller event _ => event.announced?.map controller.objectKey
  | .failure _ | .other _ _ => none

/-! ## What a move does -/

section Step

variable {debouncer : Debouncer}

/-- A move adds the key of the object that it reports to be there, or is one of the debouncer, or
does nothing. -/
theorem step_cases (debouncer : Debouncer) (move : Move) :
    (∃ key, move.key? = some key ∧ step debouncer move = debouncer.step (.add key)) ∨
    (∃ inner, (∀ key, inner ≠ .add key) ∧ move.key? = none ∧
      begun debouncer move = debouncer.begun inner ∧
      step debouncer move = debouncer.step inner) ∨
    (move.key? = none ∧ step debouncer move = debouncer) := by
  cases move with
  | report controller event hstandard =>
      rw [step, Move.key?]
      cases event with
      | listBegins => exact Or.inr (Or.inr ⟨rfl, rfl⟩)
      | listed object =>
          rw [hstandard.reconcileEvent_announced debouncer rfl]
          exact Or.inl ⟨controller.objectKey object, rfl, rfl⟩
      | listEnds => exact Or.inr (Or.inr ⟨rfl, rfl⟩)
      | applied object =>
          rw [hstandard.reconcileEvent_announced debouncer rfl]
          exact Or.inl ⟨controller.objectKey object, rfl, rfl⟩
      | deleted object =>
          rw [hstandard.reconcileEvent_deleted debouncer object]
          exact Or.inr (Or.inr ⟨rfl, rfl⟩)
  | failure controller => exact Or.inr (Or.inr ⟨rfl, rfl⟩)
  | other inner hmove => exact Or.inr (Or.inl ⟨inner, hmove, rfl, rfl, rfl⟩)

theorem sound_step (hsound : debouncer.Sound) (move : Move) : (step debouncer move).Sound := by
  rcases step_cases debouncer move with ⟨_, _, h⟩ | ⟨_, _, _, _, h⟩ | ⟨_, h⟩
  · rw [h]
    exact hsound.step _
  · rw [h]
    exact hsound.step _
  · rwa [h]

theorem step_stopped (hsound : debouncer.Sound) (hstopped : debouncer.queue.phase = .stopped)
    (move : Move) : (step debouncer move).queue.phase = .stopped := by
  rcases step_cases debouncer move with ⟨_, _, h⟩ | ⟨_, _, _, _, h⟩ | ⟨_, h⟩
  · rw [h, Debouncer.step_stopped hsound hstopped]
  · rw [h, Debouncer.step_stopped hsound hstopped]
  · rwa [h]

end Step

end Monitoring

/-! ## The whole program -/

namespace Simulation

/-- A list or a flow of changes could not be had, or the next news of a flow is an error. -/
def Cue.fails {α : Type} : Cue α → Bool
  | .ask => false
  | .page content => content.isNone
  | .flow content => content.isNone
  | .news coming =>
    match coming.news with
    | (_, .error _) :: _ => true
    | _ => false

/-- A failure of a watch passes no event on. -/
theorem Watcher.step_of_fails {α : Type} {watcher : Watcher α} {time : Nat} {cue : Cue α}
    (hcue : watcher.cue = some (time, cue)) (hfails : cue.fails = true)
    (collection : Collection α) (now : Nat) : (watcher.step collection now).2.2 = [] := by
  rw [step, hcue]
  dsimp only
  split
  · rfl
  cases cue with
  | ask => cases hfails
  | page content =>
      cases content with
      | none => rfl
      | some page => cases hfails
  | flow content =>
      cases content with
      | none => rfl
      | some flow => cases hfails
  | news coming =>
      obtain ⟨news, closes⟩ := coming
      cases news with
      | nil => cases hfails
      | cons first rest =>
          obtain ⟨delay, event | code⟩ := first
          · cases hfails
          · dsimp only [receiveNews]
            split <;> rfl

end Simulation

namespace Operator

open Simulation

variable {operator : Operator} {index : Nat} {monitor : Simulation.Monitor}

/-- What a watch of the program passes on is reported to its controller, event by event. -/
theorem debouncer_hearMonitor (hmonitor : operator.monitors[index]? = some monitor)
    (hstandard : monitor.controller.Standard) :
    (operator.hearMonitor index).debouncer = Monitoring.run operator.debouncer
      ((monitor.watcher.step (operator.collectionAt monitor.path) operator.now).2.2.map
        fun event => .report monitor.controller event hstandard) := by
  rw [Monitoring.run, Steps.run, List.foldl_map]
  simp only [hearMonitor, hmonitor]
  split
  next hlater =>
    -- Before the time of the cue the watch passes nothing on, so there is nothing to report.
    have hnone :
        (monitor.watcher.step (operator.collectionAt monitor.path) operator.now).2.2 = [] := by
      unfold Watcher.step
      split
      · rfl
      next time cue hcue =>
        rw [hcue] at hlater
        rw [if_pos (by simpa using hlater)]
    rw [hnone]
    rfl
  · rfl

/-- A failure of a watch of the program leaves the debouncer alone. -/
theorem debouncer_hearMonitor_of_fails (hmonitor : operator.monitors[index]? = some monitor)
    (hstandard : monitor.controller.Standard) {time : Nat} {cue : Cue Resource.Metadata}
    (hcue : monitor.watcher.cue = some (time, cue)) (hfails : cue.fails = true) :
    (operator.hearMonitor index).debouncer = operator.debouncer := by
  rw [debouncer_hearMonitor hmonitor hstandard, Watcher.step_of_fails hcue hfails]
  rfl

end Operator

end Rescan
