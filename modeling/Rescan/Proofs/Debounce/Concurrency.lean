import Rescan.Proofs.Debounce.LoopRun
import Rescan.Proofs.Debounce.Numbers

/-! # The bound on dispatches

As long as only the loop drains, its drains follow one another, so that the bound of one drain is
the bound of all dispatches, also of those whose drain was given up. A drain that went on leaves
keys waiting only for want of room.
-/

namespace Rescan.Debounce

open Rescan.Telemetry (Meter)
open Rescan.Topology (Registry)

/-- A drain that launches has as many dispatches as may be, unless no key waits any more. -/
theorem Drain.length_launch_eq {drain : Drain} {limit first : Nat}
    (hbound : drain.dispatches.length ≤ limit)
    (hwaiting : (drain.launch limit first).waiting ≠ []) :
    (drain.launch limit first).dispatches.length = limit := by
  rw [launch_waiting, ne_eq, List.drop_eq_nil_iff, Nat.not_le] at hwaiting
  rw [launch_dispatches, List.length_append, length_fresh]
  unfold room at hwaiting ⊢
  omega

namespace Debouncer

/-! ## One drain after the other -/

section LoopOnly

variable {debouncer : Debouncer} (honly : debouncer.LoopOnly)

include honly

theorem LoopOnly.length_drains_le : debouncer.drains.length ≤ 1 := by
  rw [honly.drains_eq]
  exact Option.length_toList_le

/-- While the loop has a drain the dispatches are those of the drain. -/
theorem LoopOnly.dispatches_of_mem (hsound : debouncer.Sound) {drain : Drain}
    (hmem : drain ∈ debouncer.drains) : debouncer.dispatches = drain.dispatches := by
  have hrunning : debouncer.queue.phase ≠ .stopped := by
    intro hstopped
    rw [honly.drains_eq_nil hsound hstopped] at hmem
    cases hmem
  have hdrains : debouncer.drains = [drain] := by
    rw [honly.drains_eq, Option.mem_toList] at hmem
    rw [honly.drains_eq, hmem]
    rfl
  rw [dispatches_eq, hdrains, honly.strays_eq hrunning]
  simp

/-- When the loop begins a drain nothing of an earlier one is left. -/
theorem LoopOnly.nothing_left_of_begun (hsound : debouncer.Sound) {now : Nat}
    (hbegun : debouncer.begun (.tick now) ≠ []) :
    debouncer.drains = [] ∧ debouncer.dispatches = [] := by
  rcases debouncer.tick_cases now with h | ⟨attribution, ticker, hloop, _, _⟩
  · exact absurd (begun_tick_of_eq h) hbegun
  · have hnone : debouncer.drains = [] := by
      rw [honly.drains_eq, drain?, hloop]
      rfl
    have hrunning : debouncer.queue.phase ≠ .stopped := by
      simp [hsound.phase_eq, hloop, Loop.phase]
    refine ⟨hnone, ?_⟩
    rw [dispatches_eq, hnone, honly.strays_eq hrunning]
    rfl

/-- As only the loop has a drain, every move keeps the dispatches within the bound. -/
theorem LoopOnly.length_dispatches_step (hsound : debouncer.Sound)
    (hbound : debouncer.dispatches.length ≤ debouncer.settings.maxConcurrentDispatches)
    (move : Move) :
    (debouncer.step move).dispatches.length ≤
      debouncer.settings.maxConcurrentDispatches := by
  rcases step_dispatches_cases hsound move with
    ⟨dispatch, stage, hturn⟩ | ⟨hperm, _⟩ | ⟨drain, hdrain, rest, hbefore, hafter, hlaunched⟩
  · refine Nat.le_trans ?_ hbound
    have hstrays := List.length_filter_le Dispatch.isUnfinished
      (debouncer.strays.map (Dispatch.advance dispatch.number stage))
    rw [List.length_map] at hstrays
    rw [hturn.step_eq, dispatches_advance, dispatches_eq, List.length_append, List.length_map,
      List.length_append]
    omega
  · rwa [hperm.length_eq]
  · -- The drain that launches is the only one, so that there are no dispatches beside its own.
    have hrest : rest.length = 0 := by
      have hlength := hbefore.length_eq
      rw [honly.dispatches_of_mem hsound hdrain, List.length_append] at hlength
      omega
    have hcollected : drain.collect.dispatches.length ≤
        debouncer.settings.maxConcurrentDispatches :=
      Nat.le_trans drain.length_collect_le (hsound.bounded drain hdrain)
    have hlaunch := drain.collect.length_launch_le
      debouncer.settings.maxConcurrentDispatches debouncer.launches hcollected
    rw [Drain.launch_dispatches, List.length_append] at hlaunch
    rw [hafter.length_eq, List.length_append, List.length_append, hlaunched]
    omega

theorem LoopOnly.length_dispatches_run (hsound : debouncer.Sound)
    (hbound : debouncer.dispatches.length ≤ debouncer.settings.maxConcurrentDispatches)
    {moves : List Move} (hmoves : ∀ move ∈ moves, ∀ attribution, move ≠ .call attribution) :
    (debouncer.run moves).dispatches.length ≤ debouncer.settings.maxConcurrentDispatches := by
  induction moves generalizing debouncer with
  | nil => exact hbound
  | cons move moves ih =>
      have hmove := hmoves move List.mem_cons_self
      change ((debouncer.step move).run moves).dispatches.length ≤ _
      rw [← debouncer.step_settings move]
      refine ih (honly.step hmove) (hsound.step move) ?_ fun other hother =>
        hmoves other (List.mem_cons_of_mem _ hother)
      rw [step_settings]
      exact honly.length_dispatches_step hsound hbound move

end LoopOnly

/-! ## The bound is used -/

/-- Keys wait in the drain of the loop only while its dispatches are as many as may be. -/
def Full (debouncer : Debouncer) : Prop :=
  ∀ drain, debouncer.drain? .loop = some drain → drain.waiting ≠ [] →
    drain.dispatches.length = debouncer.settings.maxConcurrentDispatches

theorem Full.of_drain?_eq {before after : Debouncer} (hfull : before.Full)
    (hsettings : after.settings = before.settings)
    (hdrain : after.drain? .loop = before.drain? .loop ∨ after.drain? .loop = none) :
    after.Full := by
  intro drain hafter hwaiting
  rcases hdrain with hsame | hnone
  · rw [hsettings]
    exact hfull drain (hsame ▸ hafter) hwaiting
  · rw [hnone] at hafter
    cases hafter

theorem full_poll {debouncer : Debouncer} (hsound : debouncer.Sound) :
    (debouncer.step (.poll .loop)).Full := by
  intro drain hafter hwaiting
  rw [step, drain?_poll, Option.map_eq_some_iff] at hafter
  obtain ⟨earlier, hearlier, rfl⟩ := hafter
  have hmem : earlier ∈ debouncer.drains := List.mem_append_left _ (by simp [hearlier])
  have hcollected : earlier.collect.dispatches.length ≤
      debouncer.settings.maxConcurrentDispatches :=
    Nat.le_trans earlier.length_collect_le (hsound.bounded earlier hmem)
  rw [step_settings]
  exact Drain.length_launch_eq hcollected hwaiting

theorem Full.advance {debouncer : Debouncer} (hfull : debouncer.Full) (number : Nat)
    (stage : Stage) : (debouncer.advance number stage).Full := by
  intro drain hafter hwaiting
  rw [drain?_advance, Option.map_eq_some_iff] at hafter
  obtain ⟨earlier, hearlier, rfl⟩ := hafter
  rw [Drain.advance, List.length_map]
  exact hfull earlier hearlier hwaiting

/-- Until the next tick every move leaves the room for dispatches used. -/
theorem Full.step {debouncer : Debouncer} (hfull : debouncer.Full) (hsound : debouncer.Sound)
    {move : Move} (hmove : ∀ now, move ≠ .tick now) : (debouncer.step move).Full := by
  by_cases hpoll : move = .poll .loop
  · rw [hpoll]
    exact full_poll hsound
  · by_cases hturn : ∃ dispatch stage, Turn debouncer move dispatch stage
    · obtain ⟨dispatch, stage, hturn⟩ := hturn
      rw [hturn.step_eq]
      exact hfull.advance _ _
    · refine hfull.of_drain?_eq (debouncer.step_settings move) (step_drain?_loop hmove hpoll ?_)
      exact fun dispatch stage h => hturn ⟨dispatch, stage, h⟩

theorem Full.run {debouncer : Debouncer} (hfull : debouncer.Full) (hsound : debouncer.Sound)
    {moves : List Move} (hmoves : ∀ move ∈ moves, ∀ now, move ≠ .tick now) :
    (debouncer.run moves).Full := by
  induction moves generalizing debouncer with
  | nil => exact hfull
  | cons move moves ih =>
      exact ih (hfull.step hsound (hmoves move List.mem_cons_self)) (hsound.step move)
        fun other hother => hmoves other (List.mem_cons_of_mem _ hother)

/-- However a turn begins, the loop has used its room at the end. -/
theorem full_turn {debouncer : Debouncer} (hsound : debouncer.Sound) (now : Nat)
    (later : List Nat) : (debouncer.run (Act.turn now later).moves).Full := by
  -- What happened before the last round does not matter.
  obtain ⟨earlier, last, htimes⟩ : ∃ earlier last, now :: later = earlier ++ [last] :=
    ⟨_, _, (List.dropLast_append_getLast (List.cons_ne_nil now later)).symm⟩
  simp only [Act.moves, htimes, List.flatMap_append, Steps.run_append]
  have hround := (hsound.run (earlier.flatMap Act.round)).run [.heed, .tick last, .heed]
  have hclose : ∀ now, Move.closeLoop ≠ .tick now := by simp
  exact (full_poll hround).step (hround.step _) hclose

theorem Full.act {debouncer : Debouncer} (hfull : debouncer.Full) (hsound : debouncer.Sound)
    (act : Act) : (debouncer.run act.moves).Full := by
  cases act with
  | turn now later => exact full_turn hsound now later
  | add _ | edit _ | start _ _ | cancel | send _ | land _ _ =>
      exact hfull.run hsound fun move hmem => by simp_all [Act.moves]

theorem Full.spell {debouncer : Debouncer} (hfull : debouncer.Full) (hsound : debouncer.Sound)
    (acts : List Act) : (debouncer.run (Act.spell acts)).Full := by
  induction acts generalizing debouncer with
  | nil => exact hfull
  | cons act acts ih =>
      simp only [Act.spell, List.flatMap_cons, Steps.run_append]
      exact ih (hfull.act hsound act) (hsound.run act.moves)

/-- Take any run of a new debouncer in which no caller drains: dispatches may last as long as they
like and end in any way, and the loop may be asked to end at any time. There is never more than
one drain, and when the loop begins one nothing of an earlier one is left. Of the dispatches that
the run launched those are unfinished that have not ended, and there are never more of them than
the bound, also once their drain was given up. When the drain of the loop has gone on, and until
the loop begins the next one, keys wait in it only while its dispatches are just as many as the
bound; so it is whenever the loop has had its turn. -/
theorem dispatches_fill_bound (settings : Settings.Debouncer) (registry : Registry) (meter : Meter)
    {moves : List Move} (hmoves : ∀ move ∈ moves, ∀ attribution, move ≠ .call attribution) :
    let initial := new settings registry meter
    let current := initial.run moves
    current.drains.length ≤ 1 ∧
    (∀ now, current.begun (.tick now) ≠ [] → current.drains = [] ∧ current.dispatches = []) ∧
    current.unfinished.length + (initial.history ended moves).length =
      (initial.history launched moves).length ∧
    current.unfinished.length ≤ settings.maxConcurrentDispatches ∧
    (∀ first later, moves = first ++ .poll .loop :: later →
      (∀ move ∈ later, ∀ now, move ≠ .tick now) →
      ∀ drain, current.drain? .loop = some drain → drain.waiting ≠ [] →
        drain.dispatches.length = settings.maxConcurrentDispatches) ∧
    ∀ acts drain, (initial.run (Act.spell acts)).drain? .loop = some drain →
      drain.waiting ≠ [] → drain.dispatches.length = settings.maxConcurrentDispatches := by
  intro initial current
  have hinitial : initial.Sound := new_sound settings registry meter
  have hcurrent : current.Sound := hinitial.run moves
  have honly : current.LoopOnly := (new_loopOnly settings registry meter).run hmoves
  have hfull : initial.Full := nofun
  refine ⟨honly.length_drains_le, fun now hbegun => honly.nothing_left_of_begun hcurrent hbegun,
    ?_, ?_, fun first later hsplit hlater drain hdrain hwaiting => ?_,
    fun acts drain hdrain hwaiting => ?_⟩
  · have hcount := length_unfinished_run hinitial (new_apart settings registry meter) moves
    rw [hcount]
    exact Nat.zero_add _
  · refine Nat.le_trans (List.length_filter_le ..) ?_
    exact (new_loopOnly settings registry meter).length_dispatches_run hinitial (Nat.zero_le _)
      hmoves
  · have hbefore : (initial.run first).Sound := hinitial.run first
    have hafter : current.Full := by
      rw [show current = ((initial.run first).step (.poll .loop)).run later by
        simp only [current, hsplit, Steps.run_append, Steps.run_cons]]
      exact (full_poll hbefore).run (hbefore.step _) hlater
    rw [hafter drain hdrain hwaiting]
    exact congrArg Settings.Debouncer.maxConcurrentDispatches (run_settings initial moves)
  · rw [hfull.spell hinitial acts drain hdrain hwaiting]
    exact congrArg Settings.Debouncer.maxConcurrentDispatches (run_settings initial _)

/-- Three keys are drained two at a time. -/
def crowdedMoves : List Move :=
  [.add ⟨"pod", "ns-a", "x"⟩, .add ⟨"pod", "ns-a", "y"⟩, .add ⟨"pod", "ns-a", "z"⟩,
    .start 0 .none, .tick 5000, .poll .loop]

/-- One of the two dispatches of the drain ends, which is given up thereafter. -/
def interruptedMoves : List Move :=
  crowdedMoves ++ [.send ⟨0, ⟨"pod", "ns-a", "x"⟩, .none, .launched⟩, .cancel, .heed]

/-- A drain with room for two dispatches keeps one of three keys waiting. Once it is given up one
dispatch of the two that were launched goes on. -/
theorem dispatches_fill_bound_interrupted :
    (∃ drain, ((new { maxConcurrentDispatches := 2 } .empty {}).run crowdedMoves).drain? .loop =
      some drain ∧ drain.waiting = [⟨"pod", "ns-a", "z"⟩] ∧ drain.dispatches.length = 2) ∧
    ((new { maxConcurrentDispatches := 2 } .empty {}).run interruptedMoves).drains = [] ∧
    ((new { maxConcurrentDispatches := 2 } .empty {}).run interruptedMoves).unfinished.length + 1 =
      ((new { maxConcurrentDispatches := 2 } .empty {}).history launched interruptedMoves).length ∧
    ((new { maxConcurrentDispatches := 2 } .empty {}).run interruptedMoves).unfinished.length ≤
      2 := by
  have hcrowded : ∀ move ∈ crowdedMoves, ∀ attribution, move ≠ .call attribution := by
    simp [crowdedMoves]
  have hinterrupted : ∀ move ∈ interruptedMoves, ∀ attribution, move ≠ .call attribution := by
    simp [interruptedMoves, crowdedMoves]
  obtain ⟨_, _, hcount, hbound, _⟩ :=
    dispatches_fill_bound { maxConcurrentDispatches := 2 } .empty {} hinterrupted
  refine ⟨?_, by decide +kernel, ?_, hbound⟩
  · obtain ⟨drain, hdrain, hwaiting⟩ : ∃ drain,
        ((new { maxConcurrentDispatches := 2 } .empty {}).run crowdedMoves).drain? .loop =
          some drain ∧ drain.waiting = [⟨"pod", "ns-a", "z"⟩] := by decide +kernel
    refine ⟨drain, hdrain, hwaiting, ?_⟩
    exact (dispatches_fill_bound { maxConcurrentDispatches := 2 } .empty {} hcrowded).2.2.2.2.1
      (crowdedMoves.take 5) [] rfl (List.forall_mem_nil _) drain hdrain (by simp [hwaiting])
  · have hended : ((new { maxConcurrentDispatches := 2 } .empty {}).history ended
        interruptedMoves).length = 1 := by decide +kernel
    rw [← hcount, hended]

end Debouncer

end Rescan.Debounce
