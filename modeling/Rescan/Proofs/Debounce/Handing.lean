import Rescan.Proofs.Debounce.Sound

/-! # Handing over dispatches

A dispatch is handed to the dispatcher at most once, and only after it was launched: the turn of a
dispatch comes while it is launched, and a dispatch that has moved on never becomes launched again.
-/

namespace Rescan.Debounce

open Rescan.Topology (Target)

theorem Dispatch.eq_of_advance_launched {number : Nat} {stage : Stage} {dispatch : Dispatch}
    (hstage : stage ≠ .launched) (hlaunched : (dispatch.advance number stage).stage = .launched) :
    dispatch.number ≠ number ∧ dispatch.advance number stage = dispatch := by
  unfold advance at hlaunched ⊢
  split at hlaunched
  · exact absurd hlaunched hstage
  next hnumber => exact ⟨hnumber, if_neg hnumber⟩

/-- Moving dispatches on makes no further launched ones. -/
theorem Dispatch.count_map_advance_le (number : Nat) {stage : Stage} (hstage : stage ≠ .launched)
    {dispatch : Dispatch} (hlaunched : dispatch.stage = .launched) (list : List Dispatch) :
    (list.map (Dispatch.advance number stage)).count dispatch ≤ list.count dispatch := by
  simp only [List.count, List.countP_map]
  refine List.countP_mono_left fun other _ hother => ?_
  rw [Function.comp_apply, beq_iff_eq] at hother
  have hsame := (eq_of_advance_launched hstage (hother ▸ hlaunched)).2
  rw [beq_iff_eq, ← hother, hsame]

namespace Debouncer

/-- Beside those that a move launches no dispatches become launched. -/
theorem count_dispatches_step {before : Debouncer} (hsound : before.Sound) (move : Move)
    {dispatch : Dispatch} (hlaunched : dispatch.stage = .launched) :
    (before.step move).dispatches.count dispatch ≤
      before.dispatches.count dispatch + (before.launched move).count dispatch := by
  simp only [dispatches_eq, List.count_append]
  cases before.step_change move hsound.phase_eq with
  | kept _ _ hdrains hstrays hlaunches =>
      rw [hdrains, hstrays]
      omega
  | queued _ _ _ _ _ hdrains hstrays hlaunches =>
      rw [hdrains, hstrays]
      omega
  | began attribution first last _ _ _ _ hbefore hafter hstrays hlaunches =>
      rw [hbefore, hafter, hstrays]
      simp only [List.flatMap_append, List.flatMap_cons, List.count_append, Drain.ofKeys,
        List.count_nil]
      omega
  | polled drain first last _ _ hbefore hafter hstrays hlaunches =>
      have hcollect : drain.collect.dispatches.count dispatch ≤ drain.dispatches.count dispatch :=
        List.filter_sublist.count_le dispatch
      rw [launched_of_polled hsound hbefore hafter hstrays, hbefore, hafter, hstrays]
      simp only [List.flatMap_append, List.flatMap_cons, List.count_append,
        Drain.launch_dispatches]
      omega
  | closed drain first last _ _ _ hbefore hafter hstrays hlaunches =>
      rw [hbefore, hafter, hstrays]
      simp only [List.flatMap_append, List.flatMap_cons, List.count_append]
      omega
  | abandoned drain first last _ _ _ _ hbefore hafter hstrays hlaunches =>
      rw [hbefore, hafter, hstrays]
      simp only [List.flatMap_append, List.flatMap_cons, List.count_append]
      omega
  | stopped given _ _ _ _ hdrains hstrays hlaunches =>
      rw [hdrains, hstrays]
      simp only [List.flatMap_append, List.count_append]
      omega
  | advanced number stage hstage _ _ hdrains hstrays hlaunches =>
      have hdispatches : (before.drains.map (Drain.advance number stage)).flatMap
          Drain.dispatches = (before.drains.flatMap Drain.dispatches).map
            (Dispatch.advance number stage) := by
        rw [List.flatMap_map, List.map_flatMap]
        rfl
      -- Moving on and forgetting can only take launched dispatches away.
      have hofDrains := Dispatch.count_map_advance_le number hstage hlaunched
        (before.drains.flatMap Drain.dispatches)
      have hofStrays := Dispatch.count_map_advance_le number hstage hlaunched before.strays
      have hforgotten : ((before.strays.map (Dispatch.advance number stage)).filter
          Dispatch.isUnfinished).count dispatch ≤
            (before.strays.map (Dispatch.advance number stage)).count dispatch :=
        List.filter_sublist.count_le dispatch
      rw [hdrains, hstrays, hdispatches]
      omega

/-- Only a dispatch whose turn has come is handed over. -/
theorem mem_handed {debouncer : Debouncer} {move : Move}
    {entry : Dispatch × Target × Delivery.Request} (hmem : entry ∈ debouncer.handed move) :
    move = .send entry.1 ∧ entry.1 ∈ debouncer.dispatches ∧ entry.1.stage = .launched ∧
      (debouncer.send entry.1).2 = some entry.2 := by
  cases move with
  | send dispatch =>
      simp only [handed] at hmem
      split at hmem
      next hguard =>
        obtain ⟨found, hfound, rfl⟩ := List.mem_map.mp hmem
        exact ⟨rfl, hguard.1, hguard.2, Option.mem_toList.mp hfound⟩
      · cases hmem
  | _ => cases hmem

theorem mem_dispatches_advance {debouncer : Debouncer} {number : Nat} {stage : Stage}
    {dispatch : Dispatch} (hmem : dispatch ∈ (debouncer.advance number stage).dispatches) :
    ∃ earlier ∈ debouncer.dispatches, dispatch = earlier.advance number stage := by
  rcases mem_dispatches.mp hmem with ⟨drain, hdrain, hmem⟩ | hmem
  · rw [advance_drains] at hdrain
    obtain ⟨other, hother, rfl⟩ := List.mem_map.mp hdrain
    obtain ⟨earlier, hearlier, rfl⟩ := List.mem_map.mp hmem
    exact ⟨earlier, mem_dispatches.mpr (Or.inl ⟨other, hother, hearlier⟩), rfl⟩
  · obtain ⟨earlier, hearlier, rfl⟩ := List.mem_map.mp (List.mem_of_mem_filter hmem)
    exact ⟨earlier, mem_dispatches.mpr (Or.inr hearlier), rfl⟩

/-- A dispatch that had its turn is not launched any more. -/
theorem not_mem_dispatches_send {debouncer : Debouncer} {dispatch : Dispatch}
    (hlaunched : dispatch.stage = .launched) :
    dispatch ∉ (debouncer.send dispatch).1.dispatches := by
  obtain ⟨stage, hstage, hsend⟩ := debouncer.send_eq_advance dispatch
  rw [hsend]
  intro hmem
  obtain ⟨earlier, _, hearlier⟩ := mem_dispatches_advance hmem
  obtain ⟨hnumber, hsame⟩ := Dispatch.eq_of_advance_launched hstage (hearlier ▸ hlaunched)
  exact hnumber (congrArg Dispatch.number (hearlier.trans hsame)).symm

/-- What is handed over was launched before and is not launched any more afterwards. -/
theorem count_handed_step {before : Debouncer} (hsound : before.Sound) (move : Move)
    {dispatch : Dispatch} (hlaunched : dispatch.stage = .launched) :
    ((before.handed move).map Prod.fst).count dispatch +
        (before.step move).dispatches.count dispatch ≤
      before.dispatches.count dispatch + (before.launched move).count dispatch := by
  by_cases hmem : dispatch ∈ (before.handed move).map Prod.fst
  · obtain ⟨entry, hentry, rfl⟩ := List.mem_map.mp hmem
    obtain ⟨rfl, hheld, _, hsend⟩ := mem_handed hentry
    -- It is handed over once and then gone, while there was at least one of it before.
    have hguard : entry.1 ∈ before.dispatches ∧ entry.1.stage = .launched := ⟨hheld, hlaunched⟩
    have hafter : (before.step (.send entry.1)).dispatches.count entry.1 = 0 := by
      rw [step, if_pos hguard, List.count_eq_zero]
      exact not_mem_dispatches_send hlaunched
    have hhanded : ((before.handed (.send entry.1)).map Prod.fst).count entry.1 = 1 := by
      rw [handed, if_pos hguard, hsend]
      exact List.count_singleton_self
    have hbefore : 0 < before.dispatches.count entry.1 := List.count_pos_iff.mpr hheld
    omega
  · rw [List.count_eq_zero.mpr hmem, Nat.zero_add]
    exact count_dispatches_step hsound move hlaunched

/-- In a run every dispatch is handed over at most as often as it was launched. -/
theorem count_handed_run {debouncer : Debouncer} (hsound : debouncer.Sound) (moves : List Move)
    {dispatch : Dispatch} (hlaunched : dispatch.stage = .launched) :
    ((debouncer.history handed moves).map Prod.fst).count dispatch +
        (debouncer.run moves).dispatches.count dispatch ≤
      debouncer.dispatches.count dispatch + (debouncer.history launched moves).count dispatch := by
  induction moves generalizing debouncer with
  | nil => simp
  | cons move moves ih =>
      have hstep := count_handed_step hsound move hlaunched
      have hrest := ih (hsound.step move)
      simp only [run, history, Steps.history_cons, Steps.run_cons, List.map_append,
        List.count_append] at hrest ⊢
      omega

end Debouncer

end Rescan.Debounce
