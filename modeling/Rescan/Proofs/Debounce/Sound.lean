import Mathlib.Data.List.Perm.Basic
import Mathlib.Data.List.Nodup
import Rescan.Proofs.Debounce.Change

/-! # Soundness of a debouncer

In every state that a debouncer can reach its phase fits its loop, its settings were checked when
it started, the numbers of its dispatches were handed out before, and each drain holds every key
once, among its waiting keys or with one of its dispatches, of which there are never too many.
-/

namespace Rescan.Debounce

open Rescan.Resource (Key)
open Rescan.Telemetry (Meter)
open Rescan.Topology (Registry)

namespace Drain

variable (drain : Drain) (limit first number : Nat) (stage : Stage)

/-- The dispatches that a drain launches. -/
def fresh : List Dispatch :=
  (drain.waiting.take (drain.room limit)).zipIdx.map fun (key, index) =>
    { number := first + index, key, attribution := drain.attribution }

theorem launch_dispatches :
    (drain.launch limit first).dispatches = drain.dispatches ++ drain.fresh limit first := rfl

theorem launch_waiting :
    (drain.launch limit first).waiting = drain.waiting.drop (drain.room limit) := rfl

theorem fresh_keys :
    (drain.fresh limit first).map Dispatch.key = drain.waiting.take (drain.room limit) := by
  simp only [fresh, List.map_map]
  exact List.zipIdx_map_fst 0 _

theorem length_fresh : (drain.fresh limit first).length = drain.room limit := by
  simp only [fresh, List.length_map, List.length_zipIdx, List.length_take]
  exact Nat.min_eq_left (Nat.min_le_right _ _)

theorem number_of_mem_fresh {dispatch : Dispatch} (h : dispatch ∈ drain.fresh limit first) :
    first ≤ dispatch.number ∧ dispatch.number < first + drain.room limit := by
  simp only [fresh, List.mem_map] at h
  obtain ⟨⟨key, index⟩, hmem, rfl⟩ := h
  have hindex := (List.mem_zipIdx hmem).2.1
  simp only [List.length_take] at hindex
  exact ⟨Nat.le_add_right _ _, by simp only; omega⟩

/-- Launching only moves keys from waiting to dispatches. -/
theorem launch_keys :
    ((drain.launch limit first).waiting ++
      (drain.launch limit first).dispatches.map Dispatch.key).Perm
        (drain.waiting ++ drain.dispatches.map Dispatch.key) := by
  rw [launch_waiting, launch_dispatches, List.map_append, fresh_keys]
  rw [← List.append_assoc]
  refine List.perm_append_comm.trans ?_
  rw [← List.append_assoc, List.take_append_drop]

theorem collect_waiting : drain.collect.waiting = drain.waiting := rfl

/-- Collecting outcomes only forgets dispatches that have ended. -/
theorem collect_keys :
    (drain.collect.waiting ++ drain.collect.dispatches.map Dispatch.key).Sublist
      (drain.waiting ++ drain.dispatches.map Dispatch.key) :=
  (List.Sublist.refl _).append (List.filter_sublist.map _)

theorem length_collect_le : drain.collect.dispatches.length ≤ drain.dispatches.length :=
  List.length_filter_le _ _

theorem length_launch_le (h : drain.dispatches.length ≤ limit) :
    (drain.launch limit first).dispatches.length ≤ limit := by
  rw [launch_dispatches, List.length_append, length_fresh, room]
  omega

theorem advance_keys :
    (drain.advance number stage).dispatches.map Dispatch.key =
      drain.dispatches.map Dispatch.key := by
  simp only [advance, List.map_map]
  refine List.map_congr_left fun dispatch _ => ?_
  simp only [Function.comp_apply, Dispatch.advance]
  split <;> rfl

end Drain

theorem Dispatch.advance_number (number : Nat) (stage : Stage) (dispatch : Dispatch) :
    (dispatch.advance number stage).number = dispatch.number := by
  unfold advance
  split <;> rfl

namespace Debouncer

/-- What holds of a debouncer in every state that it can reach. -/
structure Sound (debouncer : Debouncer) : Prop where
  phase_eq : debouncer.queue.phase = debouncer.loop.phase
  /-- A debouncer that was started has settings that pass their check. -/
  checked : debouncer.queue.phase ≠ .uninitialized → debouncer.settings.check = .ok ()
  numbered : ∀ dispatch ∈ debouncer.dispatches, dispatch.number < debouncer.launches
  /-- A drain holds no key twice. -/
  distinct : ∀ drain ∈ debouncer.drains,
    (drain.waiting ++ drain.dispatches.map Dispatch.key).Nodup
  bounded : ∀ drain ∈ debouncer.drains,
    drain.dispatches.length ≤ debouncer.settings.maxConcurrentDispatches

theorem new_sound (settings : Settings.Debouncer) (registry : Registry) (meter : Meter) :
    (new settings registry meter).Sound :=
  ⟨rfl, fun h => absurd rfl h, nofun, nofun, nofun⟩

theorem mem_dispatches {debouncer : Debouncer} {dispatch : Dispatch} :
    dispatch ∈ debouncer.dispatches ↔
      (∃ drain ∈ debouncer.drains, dispatch ∈ drain.dispatches) ∨ dispatch ∈ debouncer.strays := by
  rw [dispatches_eq, List.mem_append, List.mem_flatMap]

/-! ## What the drains and the dispatches come from -/

section Change

variable {before after : Debouncer} {move : Move} (hchange : Change before move after)

include hchange

/-- Launches are never taken back. -/
theorem Change.launches_le : before.launches ≤ after.launches := by
  cases hchange <;> omega

/-- A drain is one from before, has begun with the pending keys, or has gone on. -/
theorem Change.mem_drains {drain : Drain} (hmem : drain ∈ after.drains) :
    drain ∈ before.drains ∨
      (before.begun move = [before.queue.keys] ∧
        ∃ attribution, drain = .ofKeys attribution before.queue.keys) ∨
      ∃ earlier ∈ before.drains,
        (drain = earlier.collect.launch before.settings.maxConcurrentDispatches before.launches ∧
          after.launches = before.launches +
            earlier.collect.room before.settings.maxConcurrentDispatches) ∨
        ∃ number stage, stage ≠ .launched ∧ drain = earlier.advance number stage := by
  cases hchange with
  | kept _ _ hdrains => exact Or.inl (hdrains ▸ hmem)
  | queued _ _ _ _ _ hdrains => exact Or.inl (hdrains ▸ hmem)
  | began attribution first last _ _ hbegun _ hbefore hafter =>
      rw [hafter, List.mem_append, List.mem_cons] at hmem
      rw [hbefore, List.mem_append]
      rcases hmem with hmem | rfl | hmem
      · exact Or.inl (Or.inl hmem)
      · exact Or.inr (Or.inl ⟨hbegun, attribution, rfl⟩)
      · exact Or.inl (Or.inr hmem)
  | polled polled first last _ _ hbefore hafter _ hlaunches =>
      rw [hafter, List.mem_append, List.mem_cons] at hmem
      rcases hmem with hmem | rfl | hmem
      · exact Or.inl (hbefore ▸ List.mem_append_left _ hmem)
      · exact Or.inr (Or.inr ⟨polled, hbefore ▸ List.mem_append_right _ List.mem_cons_self,
          Or.inl ⟨rfl, hlaunches⟩⟩)
      · exact Or.inl (hbefore ▸ List.mem_append_right _ (List.mem_cons_of_mem _ hmem))
  | closed closed first last _ _ _ hbefore hafter =>
      rw [hafter] at hmem
      rw [hbefore]
      exact Or.inl (((List.sublist_cons_self closed last).append_left first).subset hmem)
  | abandoned given first last _ _ _ _ hbefore hafter =>
      rw [hafter] at hmem
      rw [hbefore]
      exact Or.inl (((List.sublist_cons_self given last).append_left first).subset hmem)
  | stopped given _ _ _ _ hdrains => exact Or.inl (hdrains ▸ List.mem_append_right _ hmem)
  | advanced number stage hstage _ _ hdrains =>
      rw [hdrains] at hmem
      obtain ⟨earlier, hearlier, rfl⟩ := List.mem_map.mp hmem
      exact Or.inr (Or.inr ⟨earlier, hearlier, Or.inr ⟨number, stage, hstage, rfl⟩⟩)

/-- A stray dispatch is one from before, maybe of a drain that was given up, or has moved on. -/
theorem Change.mem_strays {dispatch : Dispatch} (hmem : dispatch ∈ after.strays) :
    dispatch ∈ before.dispatches ∨
      ∃ earlier ∈ before.strays, ∃ number stage, stage ≠ .launched ∧
        dispatch = earlier.advance number stage := by
  rw [mem_dispatches]
  cases hchange with
  | abandoned given first last _ _ _ _ hbefore hafter hstrays =>
      rw [hstrays, List.mem_append] at hmem
      rcases hmem with hmem | hmem
      · exact Or.inl (Or.inr hmem)
      · exact Or.inl (Or.inl ⟨given, hbefore ▸ List.mem_append_right _ List.mem_cons_self, hmem⟩)
  | stopped given _ _ _ _ hdrains hstrays =>
      rw [hstrays, List.mem_append, List.mem_flatMap] at hmem
      rcases hmem with hmem | ⟨drain, hdrain, hmem⟩
      · exact Or.inl (Or.inr hmem)
      · exact Or.inl (Or.inl ⟨drain, hdrains ▸ List.mem_append_left _ hdrain, hmem⟩)
  | advanced number stage hstage _ _ _ hstrays =>
      rw [hstrays] at hmem
      obtain ⟨earlier, hearlier, rfl⟩ := List.mem_map.mp (List.mem_of_mem_filter hmem)
      exact Or.inr ⟨earlier, hearlier, number, stage, hstage, rfl⟩
  | kept _ _ _ hstrays => exact Or.inl (Or.inr (hstrays ▸ hmem))
  | queued _ _ _ _ _ _ hstrays => exact Or.inl (Or.inr (hstrays ▸ hmem))
  | began _ _ _ _ _ _ _ _ _ hstrays => exact Or.inl (Or.inr (hstrays ▸ hmem))
  | polled _ _ _ _ _ _ _ hstrays => exact Or.inl (Or.inr (hstrays ▸ hmem))
  | closed _ _ _ _ _ _ _ _ hstrays => exact Or.inl (Or.inr (hstrays ▸ hmem))

/-- A dispatch is one from before, maybe moved on, or it is launched for a waiting key. -/
theorem Change.mem_dispatches {dispatch : Dispatch} (hmem : dispatch ∈ after.dispatches) :
    (∃ earlier ∈ before.dispatches, dispatch = earlier ∨
      ∃ number stage, stage ≠ .launched ∧ dispatch = earlier.advance number stage) ∨
    (before.launches ≤ dispatch.number ∧ dispatch.number < after.launches ∧
      ∃ drain ∈ before.drains, dispatch.key ∈ drain.waiting) := by
  rcases Debouncer.mem_dispatches.mp hmem with ⟨drain, hdrain, hmem⟩ | hmem
  · have hkept : ∀ earlier ∈ before.drains, ∀ other ∈ earlier.dispatches,
        other ∈ before.dispatches := fun earlier hearlier other hother =>
      Debouncer.mem_dispatches.mpr (Or.inl ⟨earlier, hearlier, hother⟩)
    rcases hchange.mem_drains hdrain with hdrain | ⟨_, _, rfl⟩ | ⟨earlier, hearlier, hgone⟩
    · exact Or.inl ⟨dispatch, hkept drain hdrain dispatch hmem, Or.inl rfl⟩
    · cases hmem
    · rcases hgone with ⟨rfl, hlaunches⟩ | ⟨number, stage, hstage, rfl⟩
      · rw [Drain.launch_dispatches, List.mem_append] at hmem
        rcases hmem with hmem | hmem
        · exact Or.inl ⟨dispatch, hkept earlier hearlier dispatch (List.mem_of_mem_filter hmem),
            Or.inl rfl⟩
        · have hnumber := earlier.collect.number_of_mem_fresh _ _ hmem
          have hkey := List.mem_map_of_mem (f := Dispatch.key) hmem
          rw [Drain.fresh_keys] at hkey
          exact Or.inr ⟨hnumber.1, hlaunches ▸ hnumber.2, earlier, hearlier,
            List.mem_of_mem_take hkey⟩
      · obtain ⟨other, hother, rfl⟩ := List.mem_map.mp hmem
        exact Or.inl ⟨other, hkept earlier hearlier other hother,
          Or.inr ⟨number, stage, hstage, rfl⟩⟩
  · rcases hchange.mem_strays hmem with hmem | ⟨earlier, hearlier, hgone⟩
    · exact Or.inl ⟨dispatch, hmem, Or.inl rfl⟩
    · exact Or.inl ⟨earlier, Debouncer.mem_dispatches.mpr (Or.inr hearlier), Or.inr hgone⟩

end Change

/-- After a move a dispatch has a number that was in use before, or it is launched for a waiting
key and its number was not. -/
theorem Sound.number_cases {before after : Debouncer} {move : Move} (hsound : before.Sound)
    (hchange : Change before move after) {dispatch : Dispatch}
    (hmem : dispatch ∈ after.dispatches) :
    dispatch.number < before.launches ∨
      before.launches ≤ dispatch.number ∧ dispatch.number < after.launches ∧
        ∃ drain ∈ before.drains, dispatch.key ∈ drain.waiting := by
  rcases hchange.mem_dispatches hmem with ⟨earlier, hearlier, hgone⟩ | hnew
  · left
    have hnumber : dispatch.number = earlier.number := by
      rcases hgone with rfl | ⟨number, stage, _, rfl⟩
      · rfl
      · exact Dispatch.advance_number number stage earlier
    rw [hnumber]
    exact hsound.numbered earlier hearlier
  · exact Or.inr hnew

/-- Every move keeps a debouncer sound. -/
theorem Sound.step {debouncer : Debouncer} (hsound : debouncer.Sound) (move : Move) :
    (debouncer.step move).Sound := by
  have hchange := debouncer.step_change move hsound.phase_eq
  refine ⟨debouncer.step_phase move hsound.phase_eq, ?_, ?_, ?_, ?_⟩
  · rw [step_settings]
    rcases debouncer.step_phase_cases move with ⟨hqueue, _⟩ | ⟨hcheck, _⟩ | ⟨_, _, hrunning, _⟩
    · rw [hqueue]
      exact hsound.checked
    · exact fun _ => hcheck
    · exact fun _ => hsound.checked (by rw [hsound.phase_eq, hrunning]; decide)
  · intro dispatch hmem
    rcases hsound.number_cases hchange hmem with hnumber | ⟨_, hnumber, _⟩
    · exact Nat.lt_of_lt_of_le hnumber hchange.launches_le
    · exact hnumber
  · intro drain hmem
    rcases hchange.mem_drains hmem with hmem | ⟨_, _, rfl⟩ | ⟨earlier, hearlier, hgone⟩
    · exact hsound.distinct drain hmem
    · simpa only [Drain.ofKeys, List.map_nil, List.append_nil] using debouncer.queue.nodup
    · have hearlier := hsound.distinct earlier hearlier
      rcases hgone with ⟨rfl, _⟩ | ⟨number, stage, _, rfl⟩
      · rw [(earlier.collect.launch_keys _ _).nodup_iff]
        exact hearlier.sublist earlier.collect_keys
      · rw [earlier.advance_keys]
        exact hearlier
  · intro drain hmem
    rw [step_settings]
    rcases hchange.mem_drains hmem with hmem | ⟨_, _, rfl⟩ | ⟨earlier, hearlier, hgone⟩
    · exact hsound.bounded drain hmem
    · exact Nat.zero_le _
    · have hearlier := hsound.bounded earlier hearlier
      rcases hgone with ⟨rfl, _⟩ | ⟨number, stage, _, rfl⟩
      · exact earlier.collect.length_launch_le _ _ (Nat.le_trans earlier.length_collect_le hearlier)
      · simpa only [Drain.advance, List.length_map] using hearlier

/-- A sound debouncer is sound all along a run. -/
theorem Sound.run {debouncer : Debouncer} (hsound : debouncer.Sound) (moves : List Move) :
    (debouncer.run moves).Sound :=
  Steps.run_induction hsound fun _ move _ hbefore => hbefore.step move

/-! ## What a move launches -/

section Launched

variable {before : Debouncer} {move : Move}

/-- A move that hands out no numbers launches nothing. -/
theorem launched_eq_nil (hsound : before.Sound)
    (hlaunches : (before.step move).launches = before.launches) :
    before.launched move = [] := by
  have hchange := before.step_change move hsound.phase_eq
  rw [launched, List.filter_eq_nil_iff]
  intro dispatch hmem
  -- All numbers after the move are below the count of launches, which is the one from before.
  rw [decide_eq_true_eq, Nat.not_le, ← hlaunches]
  exact (hsound.step move).numbered dispatch hmem

/-- A drain that goes on launches its fresh dispatches. -/
theorem launched_of_polled (hsound : before.Sound) {drain : Drain} {first last : List Drain}
    (hbefore : before.drains = first ++ drain :: last)
    (hafter : (before.step move).drains = first ++ drain.collect.launch
      before.settings.maxConcurrentDispatches before.launches :: last)
    (hstrays : (before.step move).strays = before.strays) :
    before.launched move =
      drain.collect.fresh before.settings.maxConcurrentDispatches before.launches := by
  -- The filter by numbers keeps none of the dispatches from before and all of the fresh ones.
  have hold (list : List Dispatch) (hlist : ∀ dispatch ∈ list, dispatch ∈ before.dispatches) :
      (list.filter fun dispatch => before.launches ≤ dispatch.number) = [] := by
    rw [List.filter_eq_nil_iff]
    intro dispatch hmem
    rw [decide_eq_true_eq, Nat.not_le]
    exact hsound.numbered dispatch (hlist dispatch hmem)
  have hfresh : ((drain.collect.fresh before.settings.maxConcurrentDispatches
      before.launches).filter fun dispatch => before.launches ≤ dispatch.number) =
        drain.collect.fresh before.settings.maxConcurrentDispatches before.launches := by
    rw [List.filter_eq_self]
    intro dispatch hmem
    exact decide_eq_true (drain.collect.number_of_mem_fresh _ _ hmem).1
  have hkept (other : Drain) (hother : other ∈ first ++ drain :: last) :
      ∀ dispatch ∈ other.dispatches, dispatch ∈ before.dispatches := fun dispatch hmem =>
    mem_dispatches.mpr (Or.inl ⟨other, hbefore ▸ hother, hmem⟩)
  rw [launched, dispatches_eq, hafter, hstrays]
  simp only [List.flatMap_append, List.flatMap_cons, List.filter_append, Drain.launch_dispatches]
  rw [hold (first.flatMap _), hold drain.collect.dispatches, hold (last.flatMap _),
    hold before.strays, hfresh]
  · simp only [List.nil_append, List.append_nil]
  · exact fun dispatch hmem => mem_dispatches.mpr (Or.inr hmem)
  · intro dispatch hmem
    obtain ⟨other, hother, hmem⟩ := List.mem_flatMap.mp hmem
    exact hkept other (List.mem_append_right _ (List.mem_cons_of_mem _ hother)) dispatch hmem
  · exact fun dispatch hmem => hkept drain (List.mem_append_right _ List.mem_cons_self) dispatch
      (List.mem_of_mem_filter hmem)
  · intro dispatch hmem
    obtain ⟨other, hother, hmem⟩ := List.mem_flatMap.mp hmem
    exact hkept other (List.mem_append_left _ hother) dispatch hmem

/-- A dispatch is launched for a key that waits in a drain. -/
theorem waiting_of_mem_launched (hsound : before.Sound) {dispatch : Dispatch}
    (hmem : dispatch ∈ before.launched move) :
    ∃ drain ∈ before.drains, dispatch.key ∈ drain.waiting := by
  obtain ⟨hmem, hnumber⟩ := List.mem_filter.mp hmem
  rw [decide_eq_true_eq] at hnumber
  rcases hsound.number_cases (before.step_change move hsound.phase_eq) hmem with
    hused | ⟨_, _, hwaiting⟩
  · exact absurd hused (Nat.not_lt.mpr hnumber)
  · exact hwaiting

end Launched

end Debouncer

end Rescan.Debounce
