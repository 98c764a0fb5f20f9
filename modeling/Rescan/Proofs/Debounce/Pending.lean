import Rescan.Proofs.Debounce.Shutdown

/-! # Pending keys

From one drain to the next just those keys are pending that are accepted, in the order in which
they are.
-/

namespace Rescan.Debounce

open Rescan.Resource (Key)

namespace Debouncer

section Step

variable {before after : Debouncer} {move : Move}

/-- A drain begins with all pending keys, and none is left. -/
theorem Change.begun_cases (hchange : Change before move after) :
    before.begun move = [] ∨
      before.begun move = [before.queue.keys] ∧ after.queue.keys = [] := by
  cases hchange with
  | kept hquiet => exact Or.inl hquiet.begun_eq
  | queued _ _ _ hbegun => exact Or.inl hbegun
  | began _ _ _ _ _ hbegun hkeys => exact Or.inr ⟨hbegun, hkeys⟩
  | polled _ _ _ hquiet => exact Or.inl hquiet.begun_eq
  | closed _ _ _ hquiet => exact Or.inl hquiet.begun_eq
  | abandoned _ _ _ _ _ hbegun => exact Or.inl hbegun
  | stopped _ _ _ hbegun => exact Or.inl hbegun
  | advanced _ _ _ hquiet => exact Or.inl hquiet.begun_eq

/-- Unless a key is added, a drain begins or the debouncer is stopped, the pending keys stay. -/
theorem step_keys (hsound : before.Sound) (hadd : ∀ key, move ≠ .add key)
    (hbegun : before.begun move = []) (hphase : (before.step move).queue.phase ≠ .stopped) :
    (before.step move).queue.keys = before.queue.keys := by
  by_cases hheed : move = .heed
  · subst move
    rcases before.heed_cases with h | ⟨_, _, h⟩
    · rw [step, h]
    · exact absurd (by rw [step, h]; rfl) hphase
  by_cases habandon : ∃ index, move = .abandonCall index
  · obtain ⟨index, rfl⟩ := habandon
    rcases before.abandonCall_cases index with ⟨_, h⟩ | ⟨_, _, h⟩ <;> rw [step, h]
  -- No other move discards keys.
  have hdiscarded : before.discarded move = [] := by
    cases move with
    | heed => exact absurd rfl hheed
    | abandonCall index => exact absurd ⟨index, rfl⟩ habandon
    | _ => rfl
  cases before.step_change move hsound.phase_eq with
  | kept _ hkeys => exact hkeys
  | queued key haccepted =>
      have hmem : key ∈ before.accepted move := haccepted ▸ List.mem_singleton_self key
      exact absurd (eq_add_of_mem_accepted hmem).1 (hadd key)
  | began _ _ _ _ _ hbegins =>
      rw [hbegun] at hbegins
      cases hbegins
  | polled _ _ _ _ hkeys => exact hkeys
  | closed _ _ _ _ _ hkeys => exact hkeys
  | abandoned _ _ _ _ _ _ hkeys => exact hkeys
  | stopped given _ hgone _ hkeys =>
      rw [hdiscarded] at hgone
      rw [hkeys, (List.append_eq_nil_iff.mp hgone.symm).1]
  | advanced _ _ _ _ hkeys => exact hkeys

/-- Unless a drain begins or the debouncer is stopped, an accepted key joins the pending ones. -/
theorem keys_step (hsound : before.Sound) (hbegun : before.begun move = [])
    (hphase : (before.step move).queue.phase ≠ .stopped) :
    (before.step move).queue.keys = before.queue.keys ++ before.accepted move := by
  by_cases hadd : ∃ key, move = .add key
  · obtain ⟨key, rfl⟩ := hadd
    by_cases hnew : (before.add key).2 = true
    · rw [step, add_keys_of_new hnew, accepted, if_pos hnew]
    · rw [step, add_keys_of_not_new hnew, accepted, if_neg hnew, List.append_nil]
  · have hother : ∀ key, move ≠ .add key := fun key h => hadd ⟨key, h⟩
    have hnone : before.accepted move = [] := by
      rw [List.eq_nil_iff_forall_not_mem]
      exact fun key hkey => hother key (eq_add_of_mem_accepted hkey).1
    rw [hnone, List.append_nil]
    exact step_keys hsound hother hbegun hphase

end Step

section Run

variable {debouncer : Debouncer} (hsound : debouncer.Sound)

include hsound

/-- A stopped debouncer accepts no key. -/
theorem history_accepted_of_stopped (hstopped : debouncer.queue.phase = .stopped)
    (moves : List Move) : debouncer.history accepted moves = [] := by
  rw [List.eq_nil_iff_forall_not_mem]
  intro key hmem
  obtain ⟨first, move, last, rfl, haccepted⟩ := Steps.exists_of_mem_history hmem
  have hnew := (eq_add_of_mem_accepted haccepted).2
  rw [add_stopped (run_stopped hsound hstopped first)] at hnew
  cases hnew

/-- As long as no drain begins and the debouncer is not stopped, the accepted keys are pending
beside those that were. -/
theorem keys_run {moves : List Move} (hbegun : debouncer.history begun moves = [])
    (hphase : (debouncer.run moves).queue.phase ≠ .stopped) :
    (debouncer.run moves).queue.keys =
      debouncer.queue.keys ++ debouncer.history accepted moves := by
  induction moves generalizing debouncer with
  | nil => exact (List.append_nil _).symm
  | cons move moves ih =>
      obtain ⟨hfirst, hrest⟩ := List.append_eq_nil_iff.mp hbegun
      have hnext : (debouncer.step move).queue.phase ≠ .stopped := fun hstopped =>
        hphase (run_stopped (hsound.step move) hstopped moves)
      simp only [Steps.run_cons, ih (hsound.step move) hrest hphase, keys_step hsound hfirst hnext,
        Steps.history_cons, List.append_assoc]

/-- An added key is accepted or pending already. -/
theorem mem_keys_run {moves : List Move} (hbegun : debouncer.history begun moves = [])
    (hphase : (debouncer.run moves).queue.phase ≠ .stopped) (key : Key) :
    key ∈ (debouncer.run moves).queue.keys ↔
      key ∈ debouncer.queue.keys ∨ .add key ∈ moves := by
  induction moves generalizing debouncer with
  | nil => simp
  | cons move moves ih =>
      obtain ⟨hfirst, hrest⟩ := List.append_eq_nil_iff.mp hbegun
      have hnext : (debouncer.step move).queue.phase ≠ .stopped := fun hstopped =>
        hphase (run_stopped (hsound.step move) hstopped moves)
      simp only [Steps.run_cons, ih (hsound.step move) hrest hphase, List.mem_cons]
      rw [← or_assoc]
      refine or_congr_left ?_
      by_cases hadd : ∃ other, move = .add other
      · obtain ⟨other, rfl⟩ := hadd
        have hrunning : debouncer.queue.phase ≠ .stopped := fun hstopped =>
          hnext (step_stopped hsound hstopped _)
        rw [step, mem_keys_add hrunning, Move.add.injEq]
      · have hother : ∀ other, move ≠ .add other := fun other h => hadd ⟨other, h⟩
        rw [step_keys hsound hother hfirst hnext]
        exact (or_iff_left (hother key).symm).symm

end Run

end Debouncer

end Rescan.Debounce
