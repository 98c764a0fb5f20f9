import Rescan.Proofs.Debounce.Sound

/-! # Runs in which only the loop drains

When no caller drains, the loop makes all its moves in turns. A turn is one piece: nothing comes
between looking whether the loop is to end and what the loop does next.
-/

namespace Rescan.Debounce

open Rescan.Resource (Key)
open Rescan.Telemetry (Meter)
open Rescan.Topology (Registry)

/-- One step of a debouncer that only its loop drains. -/
inductive Act where
  | add (key : Key)
  | edit (change : Registry.Edit)
  | start (now : Nat) (attribution : Attribution)
  | cancel
  /-- The loop has its turn and reads the clock at least once. -/
  | turn (now : Nat) (later : List Nat)
  | send (dispatch : Dispatch)
  | land (dispatch : Dispatch) (outcome : Outcome)
  deriving DecidableEq, Repr

namespace Act

/-- The loop looks whether it is to end before it serves a tick and again before it goes on with
its drain. -/
def round (now : Nat) : List Move := [.heed, .tick now, .heed, .poll .loop, .closeLoop]

/-- The moves that an act consists of. -/
def moves : Act → List Move
  | .add key => [.add key]
  | .edit change => [.edit change]
  | .start now attribution => [.start now attribution]
  | .cancel => [.cancel]
  | .turn now later => (now :: later).flatMap round
  | .send dispatch => [.send dispatch]
  | .land dispatch outcome => [.land dispatch outcome]

/-- The moves of a sequence of acts. -/
def spell (acts : List Act) : List Move := acts.flatMap moves

@[simp] theorem spell_append (first second : List Act) :
    spell (first ++ second) = spell first ++ spell second := List.flatMap_append

/-- No caller drains in a sequence of acts. -/
theorem ne_call_of_mem_spell {acts : List Act} {move : Move} (hmem : move ∈ spell acts)
    (attribution : Attribution) : move ≠ .call attribution := by
  rintro rfl
  obtain ⟨act, _, hmem⟩ := List.mem_flatMap.mp hmem
  cases act with
  | turn now later =>
      obtain ⟨time, _, hmem⟩ := List.mem_flatMap.mp hmem
      simp [round] at hmem
  | _ => simp [moves] at hmem

end Act

namespace Debouncer

/-- What holds as long as no caller drains: only the loop has a drain, and only its end leaves
dispatches behind. -/
structure LoopOnly (debouncer : Debouncer) : Prop where
  calls_eq : debouncer.calls = []
  strays_eq : debouncer.queue.phase ≠ .stopped → debouncer.strays = []

theorem new_loopOnly (settings : Settings.Debouncer) (registry : Registry) (meter : Meter) :
    (new settings registry meter).LoopOnly := ⟨rfl, fun _ => rfl⟩

theorem LoopOnly.drains_eq {debouncer : Debouncer} (honly : debouncer.LoopOnly) :
    debouncer.drains = (debouncer.drain? .loop).toList := by
  rw [drains, honly.calls_eq, List.append_nil]

theorem LoopOnly.step {debouncer : Debouncer} (honly : debouncer.LoopOnly) {move : Move}
    (hmove : ∀ attribution, move ≠ .call attribution) : (debouncer.step move).LoopOnly := by
  refine ⟨step_calls_eq_nil honly.calls_eq hmove, fun hphase => ?_⟩
  have hbefore : debouncer.queue.phase ≠ .stopped := by
    intro hstopped
    rcases debouncer.step_phase_cases move with
      ⟨hqueue, _⟩ | ⟨_, huninitialized, _⟩ | ⟨_, _, _, hstop⟩
    · exact hphase (hqueue.trans hstopped)
    · cases hstopped.symm.trans huninitialized
    · exact hphase (hstop ▸ rfl)
  refine step_strays_eq_nil (honly.strays_eq hbefore) (fun hheed => ?_) fun index _ => ?_
  · subst hheed
    rcases debouncer.heed_cases with h | ⟨_, _, h⟩
    · exact h
    · exact absurd (by rw [Debouncer.step, h]; rfl) hphase
  · rw [honly.calls_eq, List.getElem?_nil]

theorem LoopOnly.run {debouncer : Debouncer} (honly : debouncer.LoopOnly) {moves : List Move}
    (hmoves : ∀ move ∈ moves, ∀ attribution, move ≠ .call attribution) :
    (debouncer.run moves).LoopOnly :=
  Steps.run_induction honly fun _ move hmem hbefore => hbefore.step (hmoves move hmem)

/-- A stopped debouncer in which no caller drains has no drain. -/
theorem LoopOnly.drains_eq_nil {debouncer : Debouncer} (honly : debouncer.LoopOnly)
    (hsound : debouncer.Sound) (hstopped : debouncer.queue.phase = .stopped) :
    debouncer.drains = [] := by
  rw [hsound.phase_eq] at hstopped
  rw [honly.drains_eq, drain?]
  cases hloop : debouncer.loop with
  | draining ticker drain =>
      rw [hloop] at hstopped
      cases hstopped
  | _ => rfl

/-! ## The turn of a loop that is to end -/

/-- Once the loop was asked to end it is not under way after it looked. -/
theorem heed_loop_phase {debouncer : Debouncer} (hcancelled : debouncer.cancelled = true) :
    debouncer.heed.loop.phase ≠ .running := by
  unfold heed
  split
  · simp [hcancelled, stop, Loop.phase]
  · simp [hcancelled, stop, Loop.phase]
  next hloop => simp [hloop, Loop.phase]
  next hloop => simp [hloop, Loop.phase]

section NotRunning

variable {debouncer : Debouncer} (hloop : debouncer.loop.phase ≠ .running)

include hloop

theorem step_of_not_running {now : Nat} {move : Move} (hmem : move ∈ Act.round now) :
    debouncer.step move = debouncer := by
  simp only [Act.round, List.mem_cons, List.not_mem_nil, or_false] at hmem
  rcases hmem with rfl | rfl | rfl | rfl | rfl
  · rcases debouncer.heed_cases with h | ⟨_, hrunning, _⟩
    · exact h
    · exact absurd hrunning hloop
  · rcases debouncer.tick_cases now with h | ⟨_, _, hidle, _⟩
    · exact h
    · rw [hidle] at hloop
      exact absurd rfl hloop
  · rcases debouncer.heed_cases with h | ⟨_, hrunning, _⟩
    · exact h
    · exact absurd hrunning hloop
  · rcases debouncer.poll_cases .loop with h | ⟨drain, hdrain, _⟩
    · exact h
    · cases hstate : debouncer.loop with
      | draining ticker other =>
          rw [hstate] at hloop
          exact absurd rfl hloop
      | _ => simp only [drain?, hstate, reduceCtorEq] at hdrain
  · rcases debouncer.closeLoop_cases with h | ⟨_, _, hdraining, _⟩
    · exact h
    · rw [hdraining] at hloop
      exact absurd rfl hloop

theorem begun_of_not_running {now : Nat} {move : Move} (hmem : move ∈ Act.round now) :
    debouncer.begun move = [] := by
  simp only [Act.round, List.mem_cons, List.not_mem_nil, or_false] at hmem
  rcases hmem with rfl | rfl | rfl | rfl | rfl
  case inr.inl =>
    cases hstate : debouncer.loop with
    | idle attribution ticker =>
        rw [hstate] at hloop
        exact absurd rfl hloop
    | _ => simp only [begun, hstate]
  all_goals rfl

/-- Without a loop under way the moves of a turn do nothing and begin no drain. -/
theorem run_of_not_running {moves : List Move}
    (hmoves : ∀ move ∈ moves, ∃ now, move ∈ Act.round now) :
    debouncer.run moves = debouncer ∧ debouncer.history begun moves = [] := by
  induction moves with
  | nil => exact ⟨rfl, rfl⟩
  | cons move moves ih =>
      obtain ⟨now, hmem⟩ := hmoves move List.mem_cons_self
      have hrest := ih fun other hother => hmoves other (List.mem_cons_of_mem _ hother)
      simp only [Steps.run_cons, Steps.history_cons, step_of_not_running hloop hmem,
        begun_of_not_running hloop hmem, List.nil_append]
      exact hrest

end NotRunning

/-- A turn of a loop that is to end only ends it. -/
theorem run_turn_of_cancelled {debouncer : Debouncer} (hcancelled : debouncer.cancelled = true)
    (now : Nat) (later : List Nat) :
    debouncer.run (Act.turn now later).moves = debouncer.heed ∧
      debouncer.history begun (Act.turn now later).moves = [] := by
  have hmoves : (Act.turn now later).moves = .heed ::
      ([.tick now, .heed, .poll .loop, .closeLoop] ++ later.flatMap Act.round) := rfl
  simp only [hmoves, Steps.run_cons, Steps.history_cons]
  -- The first look ends the loop, and nothing that follows in the turn finds one under way.
  refine run_of_not_running (heed_loop_phase hcancelled) fun move hmem => ?_
  rcases List.mem_append.mp hmem with hmem | hmem
  · exact ⟨now, List.mem_cons_of_mem _ hmem⟩
  · obtain ⟨time, _, hmem⟩ := List.mem_flatMap.mp hmem
    exact ⟨time, hmem⟩

end Debouncer

end Rescan.Debounce
