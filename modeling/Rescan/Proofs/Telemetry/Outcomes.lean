import Rescan.Proofs.Debounce.Conservation
import Rescan.Proofs.Debounce.FlushReport
import Rescan.Proofs.Debounce.Numbers
import Rescan.Proofs.Telemetry.Readings

/-! # Which outcomes are counted

Outcomes are counted when the drain of their dispatches closes. So the counter of an outcome is
short of the dispatches that ended with it by those whose drain is still under way and by those
whose drain was given up; the latter are never counted. Without a cancellation no drain is given
up, and the counters are right whenever no drain is under way.
-/

namespace Rescan.Debounce

open Rescan.Telemetry (Meter)

theorem Report.count_plus (report other : Report) (outcome : Outcome) :
    (report.plus other).count outcome = report.count outcome + other.count outcome := by
  cases outcome <;> rfl

/-! ## What a drain has found -/

namespace Drain

/-- How many dispatches of a drain ended with an outcome: those in its report, and those that it
has not collected yet. -/
def found (outcome : Outcome) (drain : Drain) : Nat := drain.collect.report.count outcome

variable (outcome : Outcome) (drain : Drain)

theorem found_eq : drain.found outcome =
    drain.report.count outcome + (drain.dispatches.filterMap Dispatch.outcome?).count outcome :=
  Report.count_foldl_note ..

/-- A drain that goes on has found what it had found before. -/
theorem found_launch (limit first : Nat) :
    (drain.collect.launch limit first).found outcome = drain.found outcome := by
  have hnone : (drain.collect.launch limit first).dispatches.filterMap Dispatch.outcome? = [] := by
    rw [List.filterMap_eq_nil_iff]
    intro dispatch hmem
    rw [launch_dispatches, List.mem_append] at hmem
    rcases hmem with hmem | hmem
    · simpa [Dispatch.isUnfinished] using List.of_mem_filter hmem
    · simpa [Dispatch.isUnfinished] using Debouncer.fresh_isUnfinished drain.collect _ _ hmem
  rw [found_eq, hnone]
  rfl

/-- A complete drain reports all that it has found. -/
theorem found_of_isComplete {drain : Drain} (hcomplete : drain.isComplete = true) :
    drain.found outcome = drain.report.count outcome := by
  simp only [isComplete, Bool.and_eq_true, List.isEmpty_iff] at hcomplete
  rw [found_eq, hcomplete.2]
  rfl

/-- What some drains have found together. -/
def foundIn (outcome : Outcome) (drains : List Drain) : Nat := (drains.map (found outcome)).sum

@[simp] theorem foundIn_nil : foundIn outcome [] = 0 := rfl

@[simp] theorem foundIn_cons (drains : List Drain) :
    foundIn outcome (drain :: drains) = drain.found outcome + foundIn outcome drains :=
  List.sum_cons

@[simp] theorem foundIn_append (first last : List Drain) :
    foundIn outcome (first ++ last) = foundIn outcome first + foundIn outcome last := by
  simp only [foundIn, List.map_append, List.sum_append]

/-- A drain that begins has found nothing yet. -/
theorem foundIn_ofKeys (attribution : Attribution) (keys : List Resource.Key)
    (first last : List Drain) :
    foundIn outcome (first ++ ofKeys attribution keys :: last) =
      foundIn outcome (first ++ last) := by
  have hnone : (ofKeys attribution keys).found outcome = 0 := by cases outcome <;> rfl
  simp only [foundIn_append, foundIn_cons, hnone, Nat.zero_add]

theorem foundIn_eq (drains : List Drain) : foundIn outcome drains =
    (drains.map fun drain => drain.report.count outcome).sum +
      ((drains.flatMap Drain.dispatches).filterMap Dispatch.outcome?).count outcome := by
  induction drains with
  | nil => rfl
  | cons drain drains ih =>
      simp only [foundIn_cons, ih, found_eq, List.map_cons, List.sum_cons, List.flatMap_cons,
        List.filterMap_append, List.count_append]
      omega

/-- When a dispatch moves on the reports stay as they are. -/
theorem foundIn_map_advance (number : Nat) (stage : Stage) (drains : List Drain) :
    foundIn outcome (drains.map (advance number stage)) =
      (drains.map fun drain => drain.report.count outcome).sum +
        (((drains.flatMap Drain.dispatches).map (Dispatch.advance number stage)).filterMap
          Dispatch.outcome?).count outcome := by
  rw [foundIn_eq, List.map_map, List.flatMap_map, List.map_flatMap]
  rfl

variable {outcome} {drains : List Drain} {stage : Stage}

/-- A dispatch of the drains that moves on is found from then on if it has ended. -/
theorem foundIn_advance {dispatch : Dispatch}
    (hnumbers : ((drains.flatMap Drain.dispatches).map Dispatch.number).Nodup)
    (hmem : dispatch ∈ drains.flatMap Drain.dispatches) (hunfinished : dispatch.outcome? = none) :
    foundIn outcome (drains.map (advance dispatch.number stage)) =
      foundIn outcome drains +
        ({ dispatch with stage } : Dispatch).outcome?.toList.count outcome := by
  obtain ⟨first, last, hbefore, hafter⟩ := Dispatch.map_advance_of_mem hnumbers hmem stage
  rw [foundIn_map_advance, foundIn_eq, hafter, hbefore]
  simp only [List.filterMap_append, List.filterMap_cons, hunfinished, List.count_append]
  cases ({ dispatch with stage } : Dispatch).outcome? with
  | none => simp
  | some ended =>
      simp only [Option.toList_some, List.count_cons, List.count_nil]
      omega

theorem foundIn_advance_of_ne {number : Nat}
    (hne : ∀ dispatch ∈ drains.flatMap Drain.dispatches, dispatch.number ≠ number) :
    foundIn outcome (drains.map (advance number stage)) = foundIn outcome drains := by
  rw [foundIn_map_advance, Dispatch.map_advance_of_ne hne, foundIn_eq]

end Drain

namespace Debouncer

/-! ## Observations -/

/-- The drains that a move gives up: that of the loop when it ends, and that of a caller who does
not wait for it any more. -/
def givenUp (debouncer : Debouncer) : Move → List Drain
  | .heed =>
    if debouncer.loop ≠ .ended ∧ debouncer.heed.loop = .ended then
      (debouncer.drain? .loop).toList
    else []
  | .abandonCall index => debouncer.calls[index]?.toList
  | _ => []

theorem givenUp_heed_of_eq {debouncer : Debouncer} (h : debouncer.heed = debouncer) :
    debouncer.givenUp .heed = [] := by
  simp only [givenUp, h, not_and_self, if_false]

/-- The dispatch that a move brings to its end after its drain was given up. -/
def endedAlone (debouncer : Debouncer) (move : Move) : List (Dispatch × Outcome) :=
  (debouncer.ended move).filter fun entry => entry.1 ∈ debouncer.strays

/-- How many dispatches are known to have ended with an outcome: those that are counted, and those
of the drains that are under way. -/
def known (debouncer : Debouncer) (outcome : Outcome) : Nat :=
  debouncer.meter.outcomes.count outcome + Drain.foundIn outcome debouncer.drains

/-! ## What a move does -/

section Step

variable {before : Debouncer} {move : Move} {outcome : Outcome}

/-- What is measured without a report leaves the outcomes as they are. -/
theorem outcomes_measure {change : Meter → Meter}
    (hchange : ∀ meter, (change meter).outcomes = meter.outcomes) (meter : Meter) :
    (Meter.measure change meter).outcomes = meter.outcomes := by
  unfold Meter.measure
  split
  · exact hchange meter
  · rfl

theorem outcomes_add (debouncer : Debouncer) (key : Resource.Key) :
    (debouncer.add key).1.meter.outcomes = debouncer.meter.outcomes := by
  simp only [add]
  split
  · refine (outcomes_measure ?_ _).trans (outcomes_measure ?_ _) <;> exact fun _ => rfl
  · rfl

theorem outcomes_edit (debouncer : Debouncer) (change : Topology.Registry.Edit) :
    (debouncer.edit change).meter.outcomes = debouncer.meter.outcomes := by
  simp only [edit]
  split
  · refine outcomes_measure ?_ _
    exact fun _ => rfl
  · rfl

theorem outcomes_take (debouncer : Debouncer) (attribution : Attribution) :
    (debouncer.take attribution).1.meter.outcomes = debouncer.meter.outcomes := by
  refine (outcomes_measure ?_ _).trans (outcomes_measure ?_ _) <;> exact fun _ => rfl

/-- A dispatch that ends is known to have ended, unless its drain was given up. -/
theorem Turn.known_step (hapart : before.Apart) {dispatch : Dispatch} {stage : Stage}
    (hturn : Turn before move dispatch stage) (outcome : Outcome) :
    ((before.ended move).map Prod.snd).count outcome + before.known outcome =
      (before.step move).known outcome +
        ((before.endedAlone move).map Prod.snd).count outcome := by
  have hended : (before.ended move).map Prod.snd =
      ({ dispatch with stage } : Dispatch).outcome?.toList := by
    rw [hturn.ended_eq, List.map_map]
    exact List.map_id _
  have hknown : (before.step move).known outcome = before.meter.outcomes.count outcome +
      Drain.foundIn outcome (before.drains.map (Drain.advance dispatch.number stage)) := by
    rw [known, hturn.step_eq, advance_drains]
    rfl
  unfold Apart at hapart
  rw [dispatches_eq, List.map_append, List.nodup_append] at hapart
  obtain ⟨hnumbers, -, hne⟩ := hapart
  rcases List.mem_append.mp hturn.mem with hmem | hstray
  · have halone : before.endedAlone move = [] := by
      rw [endedAlone, hturn.ended_eq, List.filter_eq_nil_iff]
      intro entry hentry
      obtain ⟨_, _, rfl⟩ := List.mem_map.mp hentry
      rw [decide_eq_true_eq]
      exact fun hstray => hne _ (List.mem_map_of_mem hmem) _ (List.mem_map_of_mem hstray) rfl
    have hunfinished : dispatch.outcome? = none := by
      simpa [Dispatch.isUnfinished] using hturn.isUnfinished
    rw [hended, halone, hknown, known, Drain.foundIn_advance hnumbers hmem hunfinished]
    simp only [List.map_nil, List.count_nil]
    omega
  · have halone : before.endedAlone move = before.ended move := by
      rw [endedAlone, hturn.ended_eq, List.filter_eq_self]
      intro entry hentry
      obtain ⟨_, _, rfl⟩ := List.mem_map.mp hentry
      exact decide_eq_true hstray
    have hothers : ∀ other ∈ before.drains.flatMap Drain.dispatches,
        other.number ≠ dispatch.number := fun other hother =>
      hne _ (List.mem_map_of_mem hother) _ (List.mem_map_of_mem hstray)
    rw [halone, hknown, known, Drain.foundIn_advance_of_ne hothers]
    exact Nat.add_comm _ _

theorem known_of_eq {after : Debouncer} (houtcomes : after.meter.outcomes = before.meter.outcomes)
    (hfound : Drain.foundIn outcome after.drains = Drain.foundIn outcome before.drains) :
    after.known outcome = before.known outcome := by
  rw [known, known, houtcomes, hfound]

/-- A drain that closes has its report counted, which is all that it has found. -/
theorem known_of_closed {after : Debouncer} {first last : List Drain} {drain : Drain}
    (hready : before.meter.ready = true) (hcomplete : drain.isComplete = true)
    (hmeter : after.meter = before.meter.countReport drain.report)
    (hbefore : before.drains = first ++ drain :: last) (hafter : after.drains = first ++ last) :
    after.known outcome = before.known outcome := by
  have houtcomes : after.meter.outcomes = before.meter.outcomes.plus drain.report := by
    rw [hmeter, Meter.countReport, Meter.measure, if_pos hready]
  simp only [known, houtcomes, Report.count_plus, hbefore, hafter, Drain.foundIn_append,
    Drain.foundIn_cons, Drain.found_of_isComplete outcome hcomplete]
  omega

/-- What a drain has found that is given up is not known any more. -/
theorem known_of_givenUp {after : Debouncer} {given : List Drain}
    (houtcomes : after.meter.outcomes = before.meter.outcomes)
    (hdrains : before.drains.Perm (given ++ after.drains)) :
    after.known outcome + Drain.foundIn outcome given = before.known outcome := by
  have hfound : Drain.foundIn outcome before.drains =
      Drain.foundIn outcome given + Drain.foundIn outcome after.drains := by
    rw [← Drain.foundIn_append]
    exact (hdrains.map _).sum_nat
  rw [known, known, houtcomes, hfound]
  omega

/-- A start that succeeds finds no loop, so that no drain is lost. -/
theorem known_start (hsound : before.Sound) (now : Nat) (attribution : Attribution) :
    (before.step (.start now attribution)).known outcome = before.known outcome := by
  simp only [step]
  split
  next started hstart =>
    obtain ⟨_, huninitialized, _, hstarted, _⟩ := start_eq_ok hstart
    have habsent : before.loop = .absent :=
      Loop.eq_absent_of_phase (hsound.phase_eq.symm.trans huninitialized)
    refine known_of_eq (by rw [hstarted]) ?_
    rw [hstarted]
    simp only [drains, drain?, habsent]
  · rfl

/-- A loop that ends gives up its drain. -/
theorem known_heed : (before.step .heed).known outcome +
    Drain.foundIn outcome (before.givenUp .heed) = before.known outcome := by
  rcases before.heed_cases with h | ⟨_, hrunning, h⟩
  · rw [givenUp_heed_of_eq h, step, h]
    rfl
  · have hgivenUp : before.givenUp .heed = (before.drain? .loop).toList := by
      simp only [givenUp, h]
      refine if_pos ⟨fun hended => ?_, rfl⟩
      rw [hended] at hrunning
      cases hrunning
    rw [hgivenUp, step, h]
    refine known_of_givenUp ?_ (.refl _)
    apply outcomes_measure
    exact fun _ => rfl

theorem known_tick (now : Nat) :
    (before.step (.tick now)).known outcome = before.known outcome := by
  rcases before.tick_cases now with h | ⟨attribution, ticker, hloop, _, h⟩ <;> rw [step, h]
  have hbefore : before.drains = before.calls := by
    rw [drains, drain?, hloop]
    rfl
  refine known_of_eq (before.outcomes_take attribution) ?_
  rw [hbefore]
  exact Drain.foundIn_ofKeys outcome attribution _ [] before.calls

theorem known_call (attribution : Attribution) :
    (before.step (.call attribution)).known outcome = before.known outcome := by
  refine known_of_eq (before.outcomes_take attribution) ?_
  have hafter : (before.call attribution).drains =
      before.drains ++ [.ofKeys attribution before.queue.keys] :=
    (List.append_assoc ..).symm
  rw [step, hafter, Drain.foundIn_ofKeys, List.append_nil]

theorem known_poll (site : Site) :
    (before.step (.poll site)).known outcome = before.known outcome := by
  rcases before.poll_cases site with h | ⟨drain, hdrain, h⟩ <;> rw [step, h]
  obtain ⟨first, last, hbefore, hafter⟩ := drains_setDrain hdrain
  refine known_of_eq (congrArg Meter.outcomes (setDrain_meter ..)) ?_
  refine (congrArg (Drain.foundIn outcome) (hafter _)).trans ?_
  simp only [hbefore, Drain.foundIn_append, Drain.foundIn_cons, Drain.found_launch]

theorem known_closeLoop (hready : before.meter.ready = true) :
    (before.step .closeLoop).known outcome = before.known outcome := by
  rcases before.closeLoop_cases with h | ⟨ticker, drain, hloop, hcomplete, h⟩ <;> rw [step, h]
  have hbefore : before.drains = [] ++ drain :: before.calls := by
    rw [drains, drain?, hloop]
    rfl
  exact known_of_closed hready hcomplete rfl hbefore rfl

theorem known_closeCall (hready : before.meter.ready = true) (index : Nat) :
    (before.step (.closeCall index)).known outcome = before.known outcome := by
  rcases before.closeCall_cases index with h | ⟨drain, hdrain, hcomplete, h⟩ <;> rw [step, h]
  obtain ⟨first, last, hbefore, hafter⟩ := drains_eraseIdx hdrain
  exact known_of_closed hready hcomplete rfl hbefore hafter

theorem known_abandonCall (index : Nat) : (before.step (.abandonCall index)).known outcome +
    Drain.foundIn outcome (before.givenUp (.abandonCall index)) = before.known outcome := by
  rcases before.abandonCall_cases index with ⟨hnone, h⟩ | ⟨drain, hdrain, h⟩
  · rw [givenUp, hnone, step, h]
    rfl
  · obtain ⟨first, last, hbefore, hafter⟩ := drains_eraseIdx hdrain
    rw [givenUp, hdrain, step, h]
    refine known_of_givenUp rfl ?_
    rw [hbefore]
    refine List.perm_middle.trans (.cons drain ?_)
    rw [← hafter]
    exact .refl _

/-- Unless a dispatch moves on, what was known stays so or its drain is given up. -/
theorem known_of_not_turn (hsound : before.Sound) (hready : before.meter.ready = true)
    (hnone : ∀ dispatch stage, ¬Turn before move dispatch stage) (outcome : Outcome) :
    (before.step move).known outcome + Drain.foundIn outcome (before.givenUp move) =
      before.known outcome := by
  cases move with
  | add key => exact known_of_eq (before.outcomes_add key) rfl
  | edit change => exact known_of_eq (before.outcomes_edit change) rfl
  | start now attribution => exact known_start hsound now attribution
  | cancel => rfl
  | heed => exact known_heed
  | tick now => exact known_tick now
  | call attribution => exact known_call attribution
  | poll site => exact known_poll site
  | closeLoop => exact known_closeLoop hready
  | closeCall index => exact known_closeCall hready index
  | abandonCall index => exact known_abandonCall index
  | send dispatch =>
      rcases before.send_cases dispatch with ⟨stage, hturn⟩ | ⟨h, _⟩
      · exact absurd hturn (hnone _ _)
      · rw [h]
        rfl
  | land dispatch noted =>
      rcases before.land_cases dispatch noted with hturn | h
      · exact absurd hturn (hnone _ _)
      · rw [h]
        rfl

/-- Every move settles the account of an outcome: a dispatch that ends with it is known from then
on or ends alone, and what was known stays so unless its drain is given up. -/
theorem known_step (hsound : before.Sound) (hapart : before.Apart)
    (hready : before.meter.ready = true) (move : Move) (outcome : Outcome) :
    ((before.ended move).map Prod.snd).count outcome + before.known outcome =
      (before.step move).known outcome + Drain.foundIn outcome (before.givenUp move) +
        ((before.endedAlone move).map Prod.snd).count outcome := by
  by_cases hturn : ∃ dispatch stage, Turn before move dispatch stage
  · obtain ⟨dispatch, stage, hturn⟩ := hturn
    have hgivenUp : before.givenUp move = [] := by cases hturn <;> rfl
    rw [hgivenUp, Drain.foundIn_nil, Nat.add_zero]
    exact hturn.known_step hapart outcome
  · have hnone : ∀ dispatch stage, ¬Turn before move dispatch stage := fun dispatch stage h =>
      hturn ⟨dispatch, stage, h⟩
    rw [known_of_not_turn hsound hready hnone, endedAlone, ended_eq_nil hnone]
    simp

end Step

/-! ## What a run does -/

/-- A run settles the account of every outcome. -/
theorem known_run {debouncer : Debouncer} (hsound : debouncer.Sound) (hapart : debouncer.Apart)
    {keys : List Resource.Key} {drained : List (List Resource.Key)}
    (hmetered : debouncer.Metered keys drained) (moves : List Move) (outcome : Outcome) :
    ((debouncer.history ended moves).map Prod.snd).count outcome + debouncer.known outcome =
      (debouncer.run moves).known outcome +
        Drain.foundIn outcome (debouncer.history givenUp moves) +
        ((debouncer.history endedAlone moves).map Prod.snd).count outcome := by
  induction moves generalizing debouncer keys drained with
  | nil => simp
  | cons move moves ih =>
      have hstep := known_step hsound hapart hmetered.ready move outcome
      have hrest := ih (hsound.step move) (hapart.step hsound move) (hmetered.step move)
      simp only [run, history, Steps.history_cons, Steps.run_cons, List.map_append,
        List.count_append, Drain.foundIn_append] at hrest ⊢
      omega

/-- Without a cancellation no drain is given up and no dispatch ends alone. -/
theorem nothing_lost_of_not_cancels {debouncer : Debouncer}
    (hcancelled : debouncer.cancelled = false) (hstrays : debouncer.strays = [])
    {moves : List Move} (hmoves : ∀ move ∈ moves, move.cancels = false) :
    debouncer.history givenUp moves = [] ∧ debouncer.history endedAlone moves = [] := by
  have hkept (before : Debouncer) (move : Move) (hmem : move ∈ moves)
      (hbefore : before.cancelled = false ∧ before.strays = []) :
      (before.step move).cancelled = false ∧ (before.step move).strays = [] :=
    ⟨step_cancelled_of_not_cancels hbefore.1 (hmoves move hmem),
      step_strays_eq_nil hbefore.2 (fun _ => heed_of_not_cancelled hbefore.1) fun index habandon =>
        absurd (hmoves move hmem) (by simp [habandon, Move.cancels])⟩
  constructor
  · refine Steps.history_eq_nil ⟨hcancelled, hstrays⟩ hkept fun before move hmem hbefore => ?_
    have hpatient := hmoves move hmem
    cases move with
    | heed => exact givenUp_heed_of_eq (heed_of_not_cancelled hbefore.1)
    | abandonCall index => cases hpatient
    | _ => rfl
  · refine Steps.history_eq_nil ⟨hcancelled, hstrays⟩ hkept fun before move _ hbefore => ?_
    rw [endedAlone, hbefore.2]
    simp

/-- Take a new debouncer whose meter is ready. At every moment of every run, the dispatches that
have ended with an outcome are those that are counted, those that a drain under way has found,
those that a drain had found when it was given up, and those that ended after their drain was
given up. So when no drain is under way the counter of the outcome is right just if no drain that
was given up had found it and no dispatch ended with it alone. Without a cancellation it always
is right then. -/
theorem outcomes_counted_iff (settings : Settings.Debouncer) (moves : List Move) :
    let initial := new settings .empty (Meter.prepare {})
    let current := initial.run moves
    (∀ outcome, ((initial.history ended moves).map Prod.snd).count outcome =
      current.meter.outcomes.count outcome + Drain.foundIn outcome current.drains +
        Drain.foundIn outcome (initial.history givenUp moves) +
        ((initial.history endedAlone moves).map Prod.snd).count outcome) ∧
    (current.drains = [] → ∀ outcome,
      current.meter.outcomes.count outcome =
          ((initial.history ended moves).map Prod.snd).count outcome ↔
        (∀ drain ∈ initial.history givenUp moves, drain.found outcome = 0) ∧
          ∀ entry ∈ initial.history endedAlone moves, entry.2 ≠ outcome) ∧
    ((∀ move ∈ moves, move.cancels = false) → current.drains = [] → ∀ outcome,
      current.meter.outcomes.count outcome =
        ((initial.history ended moves).map Prod.snd).count outcome) := by
  intro initial current
  have haccount (outcome : Outcome) :
      ((initial.history ended moves).map Prod.snd).count outcome =
        current.meter.outcomes.count outcome + Drain.foundIn outcome current.drains +
          Drain.foundIn outcome (initial.history givenUp moves) +
          ((initial.history endedAlone moves).map Prod.snd).count outcome := by
    have hrun := known_run (new_sound settings .empty _) (new_apart settings .empty _)
      (Metered.new settings) moves outcome
    have hnone : initial.known outcome = 0 := by cases outcome <;> rfl
    rw [hnone] at hrun
    exact hrun
  refine ⟨haccount, fun hdrains outcome => ?_, fun hmoves hdrains outcome => ?_⟩
  · have hlost : Drain.foundIn outcome (initial.history givenUp moves) = 0 ↔
        ∀ drain ∈ initial.history givenUp moves, drain.found outcome = 0 := by
      simp [Drain.foundIn, List.sum_eq_zero_iff_forall_eq_nat]
    have halone : ((initial.history endedAlone moves).map Prod.snd).count outcome = 0 ↔
        ∀ entry ∈ initial.history endedAlone moves, entry.2 ≠ outcome := by
      simp only [List.count_eq_zero, List.mem_map, not_exists, not_and]
    rw [← hlost, ← halone, haccount, hdrains, Drain.foundIn_nil]
    omega
  · obtain ⟨hgivenUp, halone⟩ : initial.history givenUp moves = [] ∧
        initial.history endedAlone moves = [] := nothing_lost_of_not_cancels rfl rfl hmoves
    rw [haccount, hdrains, hgivenUp, halone]
    simp

/-- The dispatch of the first of two keys. -/
def firstDispatch : Dispatch := ⟨0, ⟨"pod", "ns-a", "x"⟩, .none, .launched⟩

/-- The dispatch of the second key. -/
def secondDispatch : Dispatch := ⟨1, ⟨"pod", "ns-a", "y"⟩, .none, .launched⟩

/-- The loop drains two keys and collects the outcome of the first. -/
def halfway : List Move :=
  [.edit (.put "ns-a" ⟨{ scheme := "http", host := some (.name "scan"), path := .segments [""] },
      none⟩),
    .add ⟨"pod", "ns-a", "x"⟩, .add ⟨"pod", "ns-a", "y"⟩, .start 0 .none, .tick 5000, .poll .loop,
    .send firstDispatch, .send secondDispatch, .land { firstDispatch with stage := .sent } .success,
    .poll .loop]

/-- The drain of the loop goes on to its end. -/
def carriedOut : List Move :=
  halfway ++ [.land { secondDispatch with stage := .sent } .success, .poll .loop, .closeLoop]

/-- The loop ends before the second delivery does. -/
def cutShort : List Move :=
  halfway ++ [.cancel, .heed, .land { secondDispatch with stage := .sent } .success]

/-- Two successes are counted if the drain goes on to its end. If it is cut short the count of
failures is still right, as there were none. -/
theorem outcomes_counted_iff_carriedOut :
    let initial := new {} .empty (Meter.prepare {})
    (∀ move ∈ carriedOut, move.cancels = false) ∧ (initial.run carriedOut).drains = [] ∧
      (initial.run carriedOut).meter.outcomes.count .success = 2 ∧
      (initial.run cutShort).drains = [] ∧
      (initial.run cutShort).meter.outcomes.count .failure =
        ((initial.history ended cutShort).map Prod.snd).count .failure := by
  have hmoves : ∀ move ∈ carriedOut, move.cancels = false := by decide
  have hdrains : ((new {} .empty (Meter.prepare {})).run carriedOut).drains = [] := by
    decide +kernel
  have hended : (((new {} .empty (Meter.prepare {})).history ended carriedOut).map
      Prod.snd).count .success = 2 := by decide +kernel
  have hcounted := (outcomes_counted_iff {} carriedOut).2.2 hmoves hdrains .success
  have hshort : ((new {} .empty (Meter.prepare {})).run cutShort).drains = [] := by
    decide +kernel
  have hfailures := ((outcomes_counted_iff {} cutShort).2.1 hshort .failure).mpr
    ⟨by decide +kernel, by decide +kernel⟩
  exact ⟨hmoves, hdrains, hcounted.trans hended, hshort, hfailures⟩

/-- If it is cut short neither of the two successes is counted, though nothing is under way. -/
theorem ended_dispatches_uncounted :
    let initial := new {} .empty (Meter.prepare {})
    (initial.run cutShort).drains = [] ∧ (initial.run cutShort).unfinished = [] ∧
      ((initial.history ended cutShort).map Prod.snd).count .success = 2 ∧
      (initial.run cutShort).meter.outcomes.count .success = 0 := by
  decide +kernel

end Debouncer

end Rescan.Debounce
