import Rescan.Proofs.Debounce.Sound

/-! # The numbers of dispatches

A dispatch keeps the number that it was launched with, and no two dispatches have the same one.
So a move brings at most one dispatch on, and of the dispatches that were launched just those are
unfinished that have not ended.
-/

namespace Rescan.Debounce

open Rescan.Resource (Key)
open Rescan.Telemetry (Meter)
open Rescan.Topology (Registry)

theorem Dispatch.map_advance_of_ne {list : List Dispatch} {number : Nat}
    (hne : ∀ dispatch ∈ list, dispatch.number ≠ number) (stage : Stage) :
    list.map (advance number stage) = list := by
  have hsame : list.map (advance number stage) = list.map id :=
    List.map_congr_left fun dispatch hmem => if_neg (hne dispatch hmem)
  rw [hsame, List.map_id]

/-- Among dispatches with different numbers one of them moves on alone. -/
theorem Dispatch.map_advance_of_mem {list : List Dispatch} {dispatch : Dispatch}
    (hnumbers : (list.map Dispatch.number).Nodup) (hmem : dispatch ∈ list) (stage : Stage) :
    ∃ first last, list = first ++ dispatch :: last ∧
      list.map (advance dispatch.number stage) = first ++ { dispatch with stage } :: last := by
  obtain ⟨first, last, rfl⟩ := List.append_of_mem hmem
  rw [List.map_append, List.map_cons, List.nodup_append, List.nodup_cons] at hnumbers
  obtain ⟨_, ⟨hlast, _⟩, hfirst⟩ := hnumbers
  refine ⟨first, last, rfl, ?_⟩
  rw [List.map_append, List.map_cons, map_advance_of_ne, map_advance_of_ne]
  · simp [advance]
  · intro other hother hsame
    exact hlast (hsame ▸ List.mem_map_of_mem hother)
  · intro other hother
    exact hfirst _ (List.mem_map_of_mem hother) _ List.mem_cons_self

/-- Fresh dispatches are numbered one after the other. -/
theorem Drain.fresh_numbers (drain : Drain) (limit first : Nat) :
    (drain.fresh limit first).map Dispatch.number = List.range' first (drain.room limit) := by
  have hlength : (drain.waiting.take (drain.room limit)).length = drain.room limit := by
    rw [List.length_take]
    exact Nat.min_eq_left (Nat.min_le_right _ _)
  have hindices : (drain.waiting.take (drain.room limit)).zipIdx.map Prod.snd =
      List.range' 0 (drain.room limit) := by
    rw [List.zipIdx_map_snd, hlength]
  rw [← Nat.add_zero first, ← List.map_add_range', ← hindices, fresh, List.map_map, List.map_map,
    Nat.add_zero]
  rfl

namespace Debouncer

/-! ## What becomes of the dispatches -/

/-- A drain goes on when it is polled. -/
theorem drain?_poll (debouncer : Debouncer) (site : Site) :
    (debouncer.poll site).drain? site = (debouncer.drain? site).map fun drain =>
      drain.collect.launch debouncer.settings.maxConcurrentDispatches debouncer.launches := by
  cases site with
  | loop => cases hloop : debouncer.loop <;> simp [poll, setDrain, drain?, hloop]
  | call index =>
      cases hcall : debouncer.calls[index]? with
      | none => simp [poll, drain?, hcall]
      | some drain =>
          obtain ⟨hindex, rfl⟩ := List.getElem?_eq_some_iff.mp hcall
          simp [poll, setDrain, drain?, hindex]

theorem drain?_advance (debouncer : Debouncer) (number : Nat) (stage : Stage) (site : Site) :
    (debouncer.advance number stage).drain? site =
      (debouncer.drain? site).map (Drain.advance number stage) := by
  cases site with
  | loop => cases hloop : debouncer.loop <;> simp [advance, drain?, hloop]
  | call index => exact List.getElem?_map

theorem dispatches_advance (debouncer : Debouncer) (number : Nat) (stage : Stage) :
    (debouncer.advance number stage).dispatches =
      (debouncer.drains.flatMap Drain.dispatches).map (Dispatch.advance number stage) ++
        (debouncer.strays.map (Dispatch.advance number stage)).filter Dispatch.isUnfinished := by
  rw [dispatches_eq, advance_drains, List.flatMap_map, List.map_flatMap]
  rfl

/-- A move brings a dispatch on, or it leaves all dispatches as they are, or it lets a drain
collect and launch. -/
theorem step_dispatches_cases {before : Debouncer} (hsound : before.Sound) (move : Move) :
    (∃ dispatch stage, Turn before move dispatch stage) ∨
    ((before.step move).dispatches.Perm before.dispatches ∧ before.launched move = [] ∧
      (before.step move).launches = before.launches) ∨
    ∃ drain ∈ before.drains, ∃ rest,
      before.dispatches.Perm (drain.dispatches ++ rest) ∧
      (before.step move).dispatches.Perm
        (drain.collect.dispatches ++ before.launched move ++ rest) ∧
      before.launched move =
        drain.collect.fresh before.settings.maxConcurrentDispatches before.launches := by
  simp only [dispatches_eq, List.perm_iff_count, List.count_append]
  cases before.step_change move hsound.phase_eq with
  | kept _ _ hdrains hstrays hlaunches =>
      refine Or.inr (Or.inl ⟨fun other => ?_, launched_eq_nil hsound hlaunches, hlaunches⟩)
      rw [hdrains, hstrays]
  | queued _ _ _ _ _ hdrains hstrays hlaunches =>
      refine Or.inr (Or.inl ⟨fun other => ?_, launched_eq_nil hsound hlaunches, hlaunches⟩)
      rw [hdrains, hstrays]
  | began attribution first last _ _ _ _ hbefore hafter hstrays hlaunches =>
      refine Or.inr (Or.inl ⟨fun other => ?_, launched_eq_nil hsound hlaunches, hlaunches⟩)
      rw [hbefore, hafter, hstrays]
      simp [Drain.ofKeys]
  | polled drain first last _ _ hbefore hafter hstrays =>
      have hlaunched := launched_of_polled hsound hbefore hafter hstrays
      have hmem : drain ∈ before.drains := hbefore ▸ List.mem_append_right _ List.mem_cons_self
      refine Or.inr (Or.inr ⟨drain, hmem, first.flatMap Drain.dispatches ++
        last.flatMap Drain.dispatches ++ before.strays, fun other => ?_, fun other => ?_,
        hlaunched⟩)
      · rw [hbefore]
        simp only [List.flatMap_append, List.flatMap_cons, List.count_append]
        omega
      · rw [hlaunched, hafter, hstrays]
        simp only [List.flatMap_append, List.flatMap_cons, List.count_append,
          Drain.launch_dispatches]
        omega
  | closed drain first last _ hcomplete _ hbefore hafter hstrays hlaunches =>
      -- A drain that is complete has no dispatches left.
      have hnone : drain.dispatches = [] := by
        simp only [Drain.isComplete, Bool.and_eq_true, List.isEmpty_iff] at hcomplete
        exact hcomplete.2
      refine Or.inr (Or.inl ⟨fun other => ?_, launched_eq_nil hsound hlaunches, hlaunches⟩)
      rw [hbefore, hafter, hstrays]
      simp [hnone]
  | abandoned drain first last _ _ _ _ hbefore hafter hstrays hlaunches =>
      refine Or.inr (Or.inl ⟨fun other => ?_, launched_eq_nil hsound hlaunches, hlaunches⟩)
      rw [hbefore, hafter, hstrays]
      simp only [List.flatMap_append, List.flatMap_cons, List.count_append]
      omega
  | stopped given _ _ _ _ hdrains hstrays hlaunches =>
      refine Or.inr (Or.inl ⟨fun other => ?_, launched_eq_nil hsound hlaunches, hlaunches⟩)
      rw [hdrains, hstrays]
      simp only [List.flatMap_append, List.count_append]
      omega
  | advanced number stage _ _ _ _ _ _ hturn =>
      obtain ⟨dispatch, _, hturn⟩ := hturn
      exact Or.inl ⟨dispatch, stage, hturn⟩

/-- The dispatches of a debouncer have different numbers. -/
def Apart (debouncer : Debouncer) : Prop := (debouncer.dispatches.map Dispatch.number).Nodup

/-- The dispatches of one drain have different numbers, too. -/
theorem Apart.of_mem {debouncer : Debouncer} (hapart : debouncer.Apart) {drain : Drain}
    (hmem : drain ∈ debouncer.drains) : (drain.dispatches.map Dispatch.number).Nodup := by
  obtain ⟨first, last, hdrains⟩ := List.append_of_mem hmem
  unfold Apart at hapart
  rw [dispatches_eq, hdrains, List.flatMap_append, List.flatMap_cons] at hapart
  refine hapart.sublist (List.Sublist.map _ ?_)
  rw [List.append_assoc, List.append_assoc]
  exact (List.sublist_append_left ..).trans (List.sublist_append_right ..)

/-- Dispatches with one number are the same. -/
theorem Apart.eq_of_number {debouncer : Debouncer} (hapart : debouncer.Apart)
    {dispatch other : Dispatch} (hdispatch : dispatch ∈ debouncer.dispatches)
    (hother : other ∈ debouncer.dispatches) (hnumber : dispatch.number = other.number) :
    dispatch = other :=
  List.inj_on_of_nodup_map hapart hdispatch hother hnumber

theorem Turn.mem {debouncer : Debouncer} {move : Move} {dispatch : Dispatch} {stage : Stage}
    (hturn : Turn debouncer move dispatch stage) : dispatch ∈ debouncer.dispatches := by
  cases hturn <;> assumption

theorem Turn.launches_eq {debouncer : Debouncer} {move : Move} {dispatch : Dispatch}
    {stage : Stage} (hturn : Turn debouncer move dispatch stage) :
    (debouncer.step move).launches = debouncer.launches := by
  rw [hturn.step_eq]
  rfl

theorem map_number_advance (number : Nat) (stage : Stage) (list : List Dispatch) :
    (list.map (Dispatch.advance number stage)).map Dispatch.number =
      list.map Dispatch.number := by
  rw [List.map_map]
  exact List.map_congr_left fun dispatch _ => Dispatch.advance_number number stage dispatch

theorem Apart.step {debouncer : Debouncer} (hapart : debouncer.Apart) (hsound : debouncer.Sound)
    (move : Move) : (debouncer.step move).Apart := by
  unfold Apart at hapart ⊢
  rcases step_dispatches_cases hsound move with
    ⟨dispatch, stage, hturn⟩ | ⟨hperm, _⟩ | ⟨drain, hdrain, rest, hbefore, hafter, hlaunched⟩
  · rw [hturn.step_eq, dispatches_advance, List.map_append]
    rw [dispatches_eq, List.map_append] at hapart
    refine hapart.sublist (List.Sublist.append ?_ ?_)
    · rw [map_number_advance]
    · rw [← map_number_advance dispatch.number stage debouncer.strays]
      exact List.filter_sublist.map _
  · exact (hperm.map _).nodup_iff.mpr hapart
  · -- Fresh numbers follow one another and come after all those in use.
    have hold : ((drain.dispatches ++ rest).map Dispatch.number).Nodup :=
      (hbefore.map _).nodup_iff.mp hapart
    have hused : ∀ number ∈ (drain.dispatches ++ rest).map Dispatch.number,
        number < debouncer.launches := by
      intro number hnumber
      obtain ⟨dispatch, hmem, rfl⟩ := List.mem_map.mp hnumber
      exact hsound.numbered dispatch (hbefore.mem_iff.mpr hmem)
    have hfresh : ((debouncer.launched move).map Dispatch.number).Nodup := by
      rw [hlaunched, Drain.fresh_numbers]
      exact List.nodup_range'
    have hkept : ((drain.collect.dispatches ++ rest).map Dispatch.number).Sublist
        ((drain.dispatches ++ rest).map Dispatch.number) :=
      (List.filter_sublist.append (List.Sublist.refl rest)).map _
    have hregrouped : (debouncer.step move).dispatches.Perm
        (debouncer.launched move ++ (drain.collect.dispatches ++ rest)) := by
      refine hafter.trans ?_
      rw [← List.append_assoc]
      exact List.perm_append_comm.append_right rest
    rw [(hregrouped.map _).nodup_iff, List.map_append, List.nodup_append]
    refine ⟨hfresh, hold.sublist hkept, fun number hnew other hother hsame => ?_⟩
    obtain ⟨dispatch, hmem, rfl⟩ := List.mem_map.mp hnew
    rw [hlaunched] at hmem
    have hlow := hused other (hkept.subset hother)
    have hhigh := (drain.collect.number_of_mem_fresh _ _ hmem).1
    omega

theorem Apart.run {debouncer : Debouncer} (hapart : debouncer.Apart) (hsound : debouncer.Sound)
    (moves : List Move) : (debouncer.run moves).Apart :=
  (Steps.run_induction (P := fun other : Debouncer => other.Apart ∧ other.Sound) ⟨hapart, hsound⟩
    fun _ move _ hbefore => ⟨hbefore.1.step hbefore.2 move, hbefore.2.step move⟩).1

theorem new_apart (settings : Settings.Debouncer) (registry : Registry) (meter : Meter) :
    (new settings registry meter).Apart := .nil

/-! ## What ends -/

/-- The dispatch that a move brings to its end, with its outcome. -/
def ended (debouncer : Debouncer) : Move → List (Dispatch × Outcome)
  | .send dispatch =>
    if dispatch ∈ debouncer.dispatches ∧ dispatch.stage = .launched ∧
        debouncer.registry.lookup dispatch.key.ns = none then
      [(dispatch, .noTarget)]
    else []
  | .land dispatch outcome =>
    if dispatch ∈ debouncer.dispatches ∧ dispatch.stage = .sent ∧ outcome ≠ .noTarget then
      [(dispatch, outcome)]
    else []
  | _ => []

/-- The dispatches that were launched and have not ended, whether or not their drain goes on. -/
def unfinished (debouncer : Debouncer) : List Dispatch :=
  debouncer.dispatches.filter Dispatch.isUnfinished

theorem Turn.ended_eq {debouncer : Debouncer} {move : Move} {dispatch : Dispatch} {stage : Stage}
    (hturn : Turn debouncer move dispatch stage) :
    debouncer.ended move = (({ dispatch with stage } : Dispatch).outcome?.toList.map
      fun outcome => (dispatch, outcome)) := by
  cases hturn with
  | sent _ target hmem hlaunched hlookup => simp [ended, hlookup, Dispatch.outcome?]
  | missed _ hmem hlaunched hlookup =>
      rw [ended, if_pos ⟨hmem, hlaunched, hlookup⟩]
      rfl
  | landed _ outcome hmem hsent houtcome =>
      rw [ended, if_pos ⟨hmem, hsent, houtcome⟩]
      rfl

theorem ended_eq_nil {debouncer : Debouncer} {move : Move}
    (hnone : ∀ dispatch stage, ¬Turn debouncer move dispatch stage) :
    debouncer.ended move = [] := by
  cases move with
  | send dispatch =>
      refine if_neg fun hguard => ?_
      exact hnone _ _ (.missed dispatch hguard.1 hguard.2.1 hguard.2.2)
  | land dispatch outcome =>
      refine if_neg fun hguard => ?_
      exact hnone _ _ (.landed dispatch outcome hguard.1 hguard.2.1 hguard.2.2)
  | _ => rfl

theorem Turn.isUnfinished {debouncer : Debouncer} {move : Move} {dispatch : Dispatch}
    {stage : Stage} (hturn : Turn debouncer move dispatch stage) :
    dispatch.isUnfinished = true := by
  cases hturn with
  | sent _ _ _ hlaunched _ | missed _ _ hlaunched _ =>
      simp [Dispatch.isUnfinished, Dispatch.outcome?, hlaunched]
  | landed _ _ _ hsent _ => simp [Dispatch.isUnfinished, Dispatch.outcome?, hsent]

theorem fresh_isUnfinished (drain : Drain) (limit first : Nat) {dispatch : Dispatch}
    (hmem : dispatch ∈ drain.fresh limit first) : dispatch.isUnfinished = true := by
  obtain ⟨_, _, rfl⟩ := List.mem_map.mp hmem
  rfl

/-- A move ends one of the unfinished dispatches or adds those that it launches. -/
theorem length_unfinished_step {before : Debouncer} (hsound : before.Sound)
    (hapart : before.Apart) (move : Move) :
    (before.step move).unfinished.length + (before.ended move).length =
      before.unfinished.length + (before.launched move).length := by
  by_cases hturn : ∃ dispatch stage, Turn before move dispatch stage
  · obtain ⟨dispatch, stage, hturn⟩ := hturn
    obtain ⟨first, last, hbefore, hafter⟩ :=
      Dispatch.map_advance_of_mem hapart hturn.mem stage
    have hunfinished : (before.step move).unfinished =
        (first ++ { dispatch with stage } :: last).filter Dispatch.isUnfinished := by
      rw [← hafter, unfinished, hturn.step_eq, dispatches_advance, List.filter_append,
        List.filter_filter, dispatches_eq, List.map_append, List.filter_append]
      simp only [Bool.and_self]
    rw [hunfinished, launched_eq_nil hsound hturn.launches_eq, hturn.ended_eq, unfinished,
      hbefore]
    simp only [List.filter_append, List.filter_cons, hturn.isUnfinished, List.length_append]
    -- The dispatch stays unfinished just if its new stage tells no outcome.
    cases stage with
    | launched | sent => simp [Dispatch.isUnfinished, Dispatch.outcome?]
    | ended outcome =>
        simp [Dispatch.isUnfinished, Dispatch.outcome?]
        omega
  · have hended : before.ended move = [] := ended_eq_nil fun dispatch stage h =>
      hturn ⟨dispatch, stage, h⟩
    rcases step_dispatches_cases hsound move with
      hmoved | ⟨hperm, hlaunched, _⟩ | ⟨drain, _, rest, hbefore, hafter, hlaunched⟩
    · exact absurd hmoved hturn
    · rw [hended, hlaunched, unfinished, unfinished, (hperm.filter _).length_eq]
      rfl
    · have hall : (before.launched move).filter Dispatch.isUnfinished =
          before.launched move := by
        rw [List.filter_eq_self]
        intro dispatch hmem
        exact fresh_isUnfinished _ _ _ (hlaunched ▸ hmem)
      have hcollect : drain.collect.dispatches.filter Dispatch.isUnfinished =
          drain.dispatches.filter Dispatch.isUnfinished := by
        rw [Drain.collect, List.filter_filter]
        simp only [Bool.and_self]
      rw [hended, unfinished, unfinished, (hafter.filter _).length_eq,
        (hbefore.filter _).length_eq]
      simp only [List.filter_append, List.length_append, hall, hcollect, List.length_nil]
      omega

/-- Of the dispatches that a run launches those are unfinished that have not ended in it. -/
theorem length_unfinished_run {debouncer : Debouncer} (hsound : debouncer.Sound)
    (hapart : debouncer.Apart) (moves : List Move) :
    (debouncer.run moves).unfinished.length + (debouncer.history ended moves).length =
      debouncer.unfinished.length + (debouncer.history launched moves).length := by
  induction moves generalizing debouncer with
  | nil => rfl
  | cons move moves ih =>
      have hstep := length_unfinished_step hsound hapart move
      have hrest := ih (hsound.step move) (hapart.step hsound move)
      simp only [run, history, Steps.run_cons, Steps.history_cons, List.length_append] at hrest ⊢
      omega

end Debouncer

end Rescan.Debounce
