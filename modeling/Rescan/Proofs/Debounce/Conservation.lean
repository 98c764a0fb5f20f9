import Rescan.Proofs.Debounce.Sound

/-! # Conservation of accepted keys

Every key that is accepted is launched once, waits in a drain, is pending, or was discarded. The
account is settled by each move on its own: a move neither makes nor loses keys.
-/

namespace Rescan.Debounce

open Rescan.Resource (Key)
open Rescan.Telemetry (Meter)
open Rescan.Topology (Registry)

namespace Debouncer

/-- The keys that are accepted and have no dispatch yet. -/
def held (debouncer : Debouncer) : List Key :=
  debouncer.drains.flatMap Drain.waiting ++ debouncer.queue.keys

/-- A move settles the account of every key: what it accepts and what was held before is
launched, discarded or held afterwards. -/
theorem count_accepted_step {before : Debouncer} (hsound : before.Sound) (move : Move) (key : Key) :
    (before.accepted move).count key + before.held.count key =
      ((before.launched move).map Dispatch.key).count key +
        (before.discarded move).count key + (before.step move).held.count key := by
  simp only [held, List.count_append]
  cases before.step_change move hsound.phase_eq with
  | kept hquiet hkeys hdrains _ hlaunches =>
      rw [launched_eq_nil hsound hlaunches, hquiet.accepted_eq, hquiet.discarded_eq, hkeys, hdrains]
      simp
  | queued new haccepted hdiscarded _ hkeys hdrains _ hlaunches =>
      rw [launched_eq_nil hsound hlaunches, haccepted, hdiscarded, hkeys, hdrains]
      simp only [List.map_nil, List.count_nil, List.count_append]
      omega
  | began attribution first last haccepted hdiscarded _ hkeys hbefore hafter _ hlaunches =>
      rw [launched_eq_nil hsound hlaunches, haccepted, hdiscarded, hkeys, hbefore, hafter]
      simp only [List.flatMap_append, List.flatMap_cons, List.count_append, List.count_nil,
        List.map_nil, Drain.ofKeys]
      omega
  | polled drain first last hquiet hkeys hbefore hafter hstrays hlaunches =>
      -- What is launched comes off the front of what waits, and the rest goes on waiting.
      have hsplit (count : Nat) : drain.waiting.count key =
          (drain.waiting.take count).count key + (drain.waiting.drop count).count key := by
        rw [← List.count_append, List.take_append_drop]
      rw [launched_of_polled hsound hbefore hafter hstrays, Drain.fresh_keys, hquiet.accepted_eq,
        hquiet.discarded_eq, hkeys, hbefore, hafter]
      simp only [List.flatMap_append, List.flatMap_cons, List.count_append, List.count_nil,
        Drain.launch_waiting, Drain.collect_waiting]
      have hsplit := hsplit (drain.collect.room before.settings.maxConcurrentDispatches)
      omega
  | closed drain first last hquiet hcomplete hkeys hbefore hafter _ hlaunches =>
      -- A drain that is complete takes no key with it.
      have hwaiting : drain.waiting = [] := by
        simp only [Drain.isComplete, Bool.and_eq_true, List.isEmpty_iff] at hcomplete
        exact hcomplete.1
      rw [launched_eq_nil hsound hlaunches, hquiet.accepted_eq, hquiet.discarded_eq, hkeys, hbefore,
        hafter]
      simp [hwaiting]
  | abandoned drain first last haccepted hdiscarded _ hkeys hbefore hafter _ hlaunches =>
      rw [launched_eq_nil hsound hlaunches, haccepted, hdiscarded, hkeys, hbefore, hafter]
      simp only [List.flatMap_append, List.flatMap_cons, List.count_append, List.count_nil,
        List.map_nil]
      omega
  | stopped given haccepted hdiscarded _ hkeys hdrains _ hlaunches =>
      rw [launched_eq_nil hsound hlaunches, haccepted, hdiscarded, hkeys, hdrains]
      simp only [List.flatMap_append, List.count_append, List.count_nil, List.map_nil]
      omega
  | advanced number stage _ hquiet hkeys hdrains _ hlaunches =>
      rw [launched_eq_nil hsound hlaunches, hquiet.accepted_eq, hquiet.discarded_eq, hkeys, hdrains,
        List.flatMap_map]
      simp [Drain.advance]

/-- A run settles the account of every key. -/
theorem count_accepted_run {debouncer : Debouncer} (hsound : debouncer.Sound)
    (moves : List Move) (key : Key) :
    (debouncer.history accepted moves).count key + debouncer.held.count key =
      ((debouncer.history launched moves).map Dispatch.key).count key +
        (debouncer.history discarded moves).count key + (debouncer.run moves).held.count key := by
  induction moves generalizing debouncer with
  | nil => simp
  | cons move moves ih =>
      have hstep := count_accepted_step hsound move key
      have hrest := ih (hsound.step move)
      simp only [run, history, Steps.history_cons, Steps.run_cons, List.map_append,
        List.count_append] at hrest ⊢
      omega

/-- A sound debouncer holds a key once for each drain in which it waits, and once if it is
pending. -/
theorem Sound.count_held {debouncer : Debouncer} (hsound : debouncer.Sound) (key : Key) :
    debouncer.held.count key =
      debouncer.drains.countP (fun drain => drain.waiting.contains key) +
        if debouncer.queue.isPending key then 1 else 0 := by
  have hwaiting (drains : List Drain) (hdrains : ∀ drain ∈ drains, drain.waiting.Nodup) :
      (drains.flatMap Drain.waiting).count key =
        drains.countP fun drain => drain.waiting.contains key := by
    induction drains with
    | nil => rfl
    | cons drain drains ih =>
        rw [List.flatMap_cons, List.count_append, List.countP_cons,
          ih fun other hother => hdrains other (List.mem_cons_of_mem _ hother),
          (hdrains drain List.mem_cons_self).count, Nat.add_comm]
        simp only [List.contains_iff_mem]
  rw [held, List.count_append, debouncer.queue.nodup.count,
    hwaiting debouncer.drains fun drain hdrain =>
      (hsound.distinct drain hdrain).sublist (List.sublist_append_left _ _)]
  simp only [Queue.isPending, List.contains_iff_mem]

end Debouncer

/-- Whether a move asks the loop to end or gives up the drain of a caller. -/
def Move.cancels : Move → Bool
  | .cancel | .abandonCall _ => true
  | _ => false

namespace Debouncer

theorem step_cancelled_of_not_cancels {debouncer : Debouncer}
    (hcancelled : debouncer.cancelled = false) {move : Move} (hmove : move.cancels = false) :
    (debouncer.step move).cancelled = false := by
  rw [step_cancelled, hcancelled, Bool.false_or, decide_eq_false_iff_not]
  rintro rfl
  cases hmove

/-- Without a cancellation nothing is discarded. -/
theorem discarded_of_not_cancels {debouncer : Debouncer} (hcancelled : debouncer.cancelled = false)
    {moves : List Move} (hmoves : ∀ move ∈ moves, move.cancels = false) :
    debouncer.history discarded moves = [] := by
  refine Steps.history_eq_nil (P := fun other : Debouncer => other.cancelled = false) hcancelled
    (fun _ move hmove h => step_cancelled_of_not_cancels h (hmoves move hmove)) ?_
  intro before move hmove hbefore
  have hpatient := hmoves move hmove
  cases move with
  | heed => simp only [discarded, heed_of_not_cancelled hbefore, not_and_self, if_false]
  | abandonCall index => cases hpatient
  | _ => rfl

/-- What waits in a drain is left of what waited before, or the drain has just begun with all
pending keys. -/
theorem waiting_of_mem_drains_step {debouncer : Debouncer} (hsound : debouncer.Sound)
    (move : Move) {drain : Drain} (hmem : drain ∈ (debouncer.step move).drains) :
    (∃ earlier ∈ debouncer.drains, drain.waiting <:+ earlier.waiting) ∨
      drain.waiting = debouncer.queue.keys := by
  rcases (debouncer.step_change move hsound.phase_eq).mem_drains hmem with
    hmem | ⟨_, _, rfl⟩ | ⟨earlier, hearlier, hgone⟩
  · exact Or.inl ⟨drain, hmem, List.suffix_refl _⟩
  · exact Or.inr rfl
  · rcases hgone with ⟨rfl, _⟩ | ⟨number, stage, _, rfl⟩
    · exact Or.inl ⟨earlier, hearlier, List.drop_suffix _ _⟩
    · exact Or.inl ⟨earlier, hearlier, List.suffix_refl _⟩

/-- In every state of every run of a new debouncer, a key was accepted as often as it was launched,
waits in a drain, is pending and was discarded, all taken together. A key that is accepted now is
pending and joins no drain that is under way: a drain launches only keys that wait in it, and
those were pending when it began. Without a cancellation nothing is discarded, and once nothing is
pending and no drain is unfinished every accepted key has been launched as often as it was
accepted. -/
theorem accepted_keys_conserved (settings : Settings.Debouncer) (registry : Registry)
    (meter : Meter) (moves : List Move) :
    let initial := new settings registry meter
    let current := initial.run moves
    (∀ key, (initial.history accepted moves).count key =
      ((initial.history launched moves).map Dispatch.key).count key +
        current.drains.countP (fun drain => drain.waiting.contains key) +
        (if current.queue.isPending key then 1 else 0) +
        (initial.history discarded moves).count key) ∧
    (∀ key, (current.add key).2 = true → (current.step (.add key)).queue.isPending key = true ∧
      (current.step (.add key)).drains = current.drains) ∧
    (∀ move, ∀ drain ∈ (current.step move).drains,
      (∃ earlier ∈ current.drains, drain.waiting <:+ earlier.waiting) ∨
        drain.waiting = current.queue.keys) ∧
    (∀ move, ∀ dispatch ∈ current.launched move,
      ∃ drain ∈ current.drains, dispatch.key ∈ drain.waiting) ∧
    ((∀ move ∈ moves, move.cancels = false) → initial.history discarded moves = [] ∧
      (current.queue.keys = [] → current.drains = [] → ∀ key,
        (initial.history accepted moves).count key =
          ((initial.history launched moves).map Dispatch.key).count key)) := by
  intro initial current
  have hinitial : initial.Sound := new_sound settings registry meter
  have hcurrent : current.Sound := hinitial.run moves
  have haccount (key : Key) : (initial.history accepted moves).count key =
      ((initial.history launched moves).map Dispatch.key).count key +
        current.drains.countP (fun drain => drain.waiting.contains key) +
        (if current.queue.isPending key then 1 else 0) +
        (initial.history discarded moves).count key := by
    have hrun := count_accepted_run hinitial moves key
    have hnone : initial.held.count key = 0 := rfl
    rw [hnone, hcurrent.count_held] at hrun
    omega
  refine ⟨haccount, ?_, ?_, ?_, ?_⟩
  · intro key hnew
    refine ⟨?_, rfl⟩
    rw [Queue.isPending, List.contains_iff_mem, step, add_keys_of_new hnew]
    exact List.mem_append_right _ List.mem_cons_self
  · exact fun move drain hmem => waiting_of_mem_drains_step hcurrent move hmem
  · exact fun move dispatch hmem => waiting_of_mem_launched hcurrent hmem
  · intro hmoves
    have hnone : initial.history discarded moves = [] := discarded_of_not_cancels rfl hmoves
    refine ⟨hnone, fun hkeys hdrains key => ?_⟩
    rw [haccount, hnone, hdrains, Queue.isPending, hkeys]
    simp

/-- A run in which a key is added again while its drain is under way. -/
def repeated : List Move :=
  [.add ⟨"pod", "ns-a", "x"⟩, .call .none, .poll (.call 0), .add ⟨"pod", "ns-a", "x"⟩,
    .add ⟨"pod", "ns-a", "x"⟩, .send ⟨0, ⟨"pod", "ns-a", "x"⟩, .none, .launched⟩, .poll (.call 0),
    .closeCall 0, .call .none, .poll (.call 0),
    .send ⟨1, ⟨"pod", "ns-a", "x"⟩, .none, .launched⟩, .poll (.call 0), .closeCall 0]

/-- The repeated key is accepted twice and launched twice, by two drains. -/
theorem accepted_keys_conserved_repeated :
    (∀ move ∈ repeated, move.cancels = false) ∧
      ((new {} .empty {}).run repeated).queue.keys = [] ∧
      ((new {} .empty {}).run repeated).drains = [] ∧
      ((new {} .empty {}).history accepted repeated).count ⟨"pod", "ns-a", "x"⟩ = 2 ∧
      (((new {} .empty {}).history launched repeated).map Dispatch.key).count
        ⟨"pod", "ns-a", "x"⟩ = 2 := by
  have hmoves : ∀ move ∈ repeated, move.cancels = false := by decide
  have hkeys : ((new {} .empty {}).run repeated).queue.keys = [] := by decide +kernel
  have hdrains : ((new {} .empty {}).run repeated).drains = [] := by decide +kernel
  have haccepted :
      ((new {} .empty {}).history accepted repeated).count ⟨"pod", "ns-a", "x"⟩ = 2 := by
    decide +kernel
  have hlaunched := ((accepted_keys_conserved {} .empty {} repeated).2.2.2.2 hmoves).2 hkeys hdrains
    ⟨"pod", "ns-a", "x"⟩
  exact ⟨hmoves, hkeys, hdrains, haccepted, hlaunched.symm.trans haccepted⟩

end Debouncer

end Rescan.Debounce
