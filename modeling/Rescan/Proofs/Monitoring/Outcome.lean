import Rescan.Controller
import Rescan.Proofs.Debounce.Shutdown

/-! # What controllers report

The outcome of a notice says what became of its key. It is right as long as the debouncer is not
stopped. A stopped debouncer takes in no key, and the outcome is that of a key which was pending.
-/

namespace Rescan.Controller

open Rescan.Debounce (Debouncer)
open Rescan.Resource (Notice)

/-- What an outcome says about the debouncer before and after the notice. -/
def Outcome.Holds (before after : Debouncer) : Outcome → Prop
  | .queued key => before.queue.isPending key = false ∧ after.queue.isPending key = true
  | .coalesced key => before.queue.isPending key = true ∧ after.queue.isPending key = true
  | .filtered => after = before

section Reconcile

variable {controller : Controller} {debouncer : Debouncer} {notice : Notice}

theorem reconcile_of_not_accepts (haccepts : controller.accepts notice = false) :
    controller.reconcile debouncer notice = (debouncer, .filtered) := by
  rw [reconcile, haccepts]
  rfl

theorem reconcile_of_accepts (haccepts : controller.accepts notice = true) :
    controller.reconcile debouncer notice =
      ((debouncer.add (controller.keyOf controller.kind notice)).1,
        if (debouncer.add (controller.keyOf controller.kind notice)).2 then
          .queued (controller.keyOf controller.kind notice)
        else .coalesced (controller.keyOf controller.kind notice)) := by
  rw [reconcile, if_pos haccepts]
  dsimp only
  split
  next hadd => rw [hadd]; rfl
  next hadd => rw [hadd]; rfl

/-- A key that is accepted into a debouncer that is not stopped is reported as it was found. -/
theorem reconcile_holds (hphase : debouncer.queue.phase ≠ .stopped) :
    (controller.reconcile debouncer notice).2.Holds debouncer
      (controller.reconcile debouncer notice).1 := by
  cases haccepts : controller.accepts notice with
  | false =>
      rw [reconcile_of_not_accepts haccepts]
      rfl
  | true =>
      rw [reconcile_of_accepts haccepts]
      generalize controller.keyOf controller.kind notice = key
      have hafter : (debouncer.add key).1.queue.isPending key = true :=
        List.contains_iff_mem.mpr ((Debouncer.mem_keys_add hphase key key).mpr (Or.inr rfl))
      by_cases hnew : (debouncer.add key).2 = true
      · rw [if_pos hnew]
        refine ⟨?_, hafter⟩
        rw [← Bool.not_eq_true, Debounce.Queue.isPending, List.contains_iff_mem]
        exact ((debouncer.add_new_iff key).mp hnew).2
      · rw [if_neg hnew]
        refine ⟨?_, hafter⟩
        rw [Debounce.Queue.isPending, List.contains_iff_mem]
        by_contra hmem
        exact hnew ((debouncer.add_new_iff key).mpr ⟨hphase, hmem⟩)

/-- A stopped debouncer ignores every notice, and every accepted one is reported as one whose key
was pending. -/
theorem reconcile_stopped (hstopped : debouncer.queue.phase = .stopped)
    (haccepts : controller.accepts notice = true) :
    controller.reconcile debouncer notice =
      (debouncer, .coalesced (controller.keyOf controller.kind notice)) := by
  rw [reconcile_of_accepts haccepts, Debouncer.add_stopped hstopped]
  rfl

end Reconcile

/-- The outcome of a notice is right if the debouncer is not stopped or the notice does not concern
the controller, and otherwise it is wrong: a key is reported that neither was pending nor is. -/
theorem outcome_holds_iff (controller : Controller) (debouncer : Debouncer) (notice : Notice) :
    (controller.reconcile debouncer notice).2.Holds debouncer
        (controller.reconcile debouncer notice).1 ↔
      debouncer.queue.phase ≠ .stopped ∨ controller.accepts notice = false := by
  constructor
  · intro hholds
    by_contra hneither
    rw [not_or, not_not, Bool.not_eq_false] at hneither
    obtain ⟨hstopped, haccepts⟩ := hneither
    rw [reconcile_stopped hstopped haccepts] at hholds
    obtain ⟨hpending, _⟩ := hholds
    rw [Debounce.Queue.isPending, debouncer.queue.keys_eq_nil hstopped] at hpending
    cases hpending
  · rintro (hphase | haccepts)
    · exact reconcile_holds hphase
    · rw [reconcile_of_not_accepts haccepts]
      rfl

/-- A controller of pods. -/
def ofPods : Controller := { kind := ⟨"pod"⟩ }

/-- A debouncer that was started and asked to end. -/
def shutDown : Debouncer := (Debouncer.new {} .empty {}).run [.start 0 .none, .cancel, .heed]

/-- After the debouncer was stopped a change of a pod is reported as one of a pending key. -/
theorem outcome_wrong_once_stopped :
    (ofPods.reconcile shutDown ⟨"ns-a", "x", .update⟩).2 = .coalesced ⟨"pod", "ns-a", "x"⟩ ∧
      ¬(ofPods.reconcile shutDown ⟨"ns-a", "x", .update⟩).2.Holds shutDown
        (ofPods.reconcile shutDown ⟨"ns-a", "x", .update⟩).1 := by
  have hstopped : shutDown.queue.phase = .stopped := by decide +kernel
  have haccepts : ofPods.accepts ⟨"ns-a", "x", .update⟩ = true := rfl
  rw [reconcile_stopped hstopped haccepts]
  refine ⟨rfl, fun hholds => ?_⟩
  have hpending : shutDown.queue.isPending ⟨"pod", "ns-a", "x"⟩ = false := by decide +kernel
  exact Bool.false_ne_true (hpending.symm.trans hholds.1)

end Rescan.Controller
