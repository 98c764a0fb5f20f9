import Rescan.Proofs.Debounce.Flush

/-! # A drain comes to its end

A drain that goes on collects the dispatches that have ended and launches others in their place.
As long as at least one may be under way it gets further whenever a dispatch has ended or none is
under way, so that it is complete once all its dispatches have ended.
-/

namespace Rescan.Debounce

open Debouncer (Site Turn)

namespace Drain

variable (drain : Drain) (limit first : Nat)

/-- How much is left to do: every waiting key is to be launched and then collected. -/
def weight : Nat := 2 * drain.waiting.length + drain.dispatches.length

/-- There is something to do at once: an outcome is there to be collected, or keys wait and nothing
is under way. -/
def Ready : Prop :=
  (∃ dispatch ∈ drain.dispatches, dispatch.isUnfinished = false) ∨
    drain.dispatches = [] ∧ drain.waiting ≠ []

/-- A later state of a drain is further, or it has the same dispatches and whatever there was to
do. -/
def LeadsTo (later : Drain) : Prop :=
  later.weight < drain.weight ∨ later.weight = drain.weight ∧
    later.dispatches.map Dispatch.number = drain.dispatches.map Dispatch.number ∧
    (drain.Ready → later.Ready)

theorem LeadsTo.refl : drain.LeadsTo drain := Or.inr ⟨rfl, rfl, id⟩

theorem LeadsTo.trans {drain next last : Drain} (hnext : drain.LeadsTo next)
    (hlast : next.LeadsTo last) : drain.LeadsTo last := by
  rcases hnext with hnext | ⟨hnext, hbefore, hwas⟩
  · exact Or.inl (by rcases hlast with hlast | ⟨hlast, _⟩ <;> omega)
  · rcases hlast with hlast | ⟨hlast, hnumbers, hready⟩
    · exact Or.inl (by omega)
    · exact Or.inr ⟨hlast.trans hnext, hnumbers.trans hbefore, hready ∘ hwas⟩

theorem isComplete_of_weight (hweight : drain.weight = 0) : drain.isComplete = true := by
  unfold weight at hweight
  simp only [isComplete, Bool.and_eq_true, List.isEmpty_iff]
  exact ⟨List.length_eq_zero_iff.mp (by omega), List.length_eq_zero_iff.mp (by omega)⟩

theorem weight_launch : (drain.launch limit first).weight + drain.room limit = drain.weight := by
  have hroom : drain.room limit ≤ drain.waiting.length := Nat.min_le_right _ _
  rw [weight, weight, launch_waiting, launch_dispatches, List.length_append, length_fresh,
    List.length_drop]
  omega

/-- When nothing has ended there is nothing to collect. -/
theorem collect_eq_self (hnone : ∀ dispatch ∈ drain.dispatches, dispatch.isUnfinished = true) :
    drain.collect = drain := by
  have hdispatches : drain.dispatches.filter Dispatch.isUnfinished = drain.dispatches :=
    List.filter_eq_self.mpr hnone
  have houtcomes : drain.dispatches.filterMap Dispatch.outcome? = [] := by
    rw [List.filterMap_eq_nil_iff]
    intro dispatch hmem
    exact Option.isNone_iff_eq_none.mp (hnone dispatch hmem)
  rw [collect, hdispatches, houtcomes]
  rfl

theorem launch_eq_self (hroom : drain.room limit = 0) : drain.launch limit first = drain := by
  simp [launch, hroom]

/-- A drain that goes on gets further, unless it has nothing to do and stays as it is. -/
theorem weight_poll (hlimit : 0 < limit) :
    (drain.collect.launch limit first).weight < drain.weight ∨
      drain.collect.launch limit first = drain ∧ ¬drain.Ready := by
  have hlaunch := drain.collect.weight_launch limit first
  by_cases hended : ∃ dispatch ∈ drain.dispatches, dispatch.isUnfinished = false
  · -- An outcome is collected.
    obtain ⟨dispatch, hmem, hdispatch⟩ := hended
    have hcollect : drain.collect.dispatches.length < drain.dispatches.length :=
      List.length_filter_lt_length_iff_exists.mpr ⟨dispatch, hmem, by simp [hdispatch]⟩
    have hwaiting := congrArg List.length drain.collect_waiting
    left
    unfold weight at hlaunch ⊢
    omega
  · have hsame : drain.collect = drain := drain.collect_eq_self (by simpa using hended)
    rw [hsame] at hlaunch ⊢
    by_cases hroom : drain.room limit = 0
    · refine Or.inr ⟨drain.launch_eq_self limit first hroom, ?_⟩
      rintro (hready | ⟨hnone, hwaiting⟩)
      · exact hended hready
      · -- With nothing under way there is room for a waiting key.
        have hlength := List.length_pos_iff.mpr hwaiting
        rw [room, hnone, List.length_nil] at hroom
        omega
    · left
      omega

theorem weight_advance (number : Nat) (stage : Stage) :
    (drain.advance number stage).weight = drain.weight := by
  rw [weight, weight, advance, List.length_map]

end Drain

namespace Flush

variable {flush : Flush} {drain later : Drain} {move : Move}

/-- Whoever waits for a drain goes on with it. -/
theorem drain?_step_poll {site : Site} (hsite : flush.site = some site)
    (hdrain : flush.drain? = some drain) :
    (flush.step (.poll site)).drain? = some (drain.collect.launch
      flush.debouncer.settings.maxConcurrentDispatches flush.debouncer.launches) := by
  have hheld : flush.debouncer.drain? site = some drain := by
    rw [← hdrain, Flush.drain?, hsite, Option.bind_some]
  have hpolled := flush.debouncer.drain?_poll site
  rw [hheld, Option.map_some] at hpolled
  cases site with
  | loop =>
      simp only [step, Flush.drain?, hsite, Option.bind_some, follow, Debouncer.step, hpolled,
        Option.map_some]
  | call index =>
      simp only [step, Flush.drain?, hsite, Option.bind_some, follow, Debouncer.step, hpolled]

/-- Whoever looks for the report of a complete drain takes it. -/
theorem returned_closing {site : Site} (hsite : flush.site = some site)
    (hdrain : flush.drain? = some drain) (hcomplete : drain.isComplete = true) :
    flush.returned site.closing = [drain.report] := by
  cases site with
  | loop => simp [returned, Site.closing, hsite, hdrain, hcomplete]
  | call index =>
      have hcall : flush.debouncer.calls[index]? = some drain := by
        rw [← hdrain, Flush.drain?, hsite]
        rfl
      simp [returned, Site.closing, hsite, Debouncer.closeCall, hcall, hcomplete]

/-- A move gets the drain further, or leaves its dispatches and what there is to do. -/
theorem leadsTo_step (hsound : flush.debouncer.Sound) (hapart : flush.debouncer.Apart)
    (hlimit : 0 < flush.debouncer.settings.maxConcurrentDispatches)
    (hdrain : flush.drain? = some drain) (hlater : (flush.step move).drain? = some later) :
    drain.LeadsTo later := by
  rcases later_cases hsound hdrain hlater with
    ⟨rfl, _⟩ | ⟨rfl, _⟩ | ⟨dispatch, stage, hturn, rfl⟩
  · exact .refl _
  · refine (drain.weight_poll _ _ hlimit).imp_right fun ⟨hsame, _⟩ => ?_
    rw [hsame]
    exact ⟨rfl, rfl, id⟩
  · refine Or.inr ⟨drain.weight_advance _ _, Debouncer.map_number_advance .., ?_⟩
    rintro (⟨other, hother, hended⟩ | ⟨hnone, hwaiting⟩)
    · -- What has ended is not what moves on.
      have hheld := Debouncer.mem_dispatches.mpr
        (Or.inl ⟨drain, mem_drains_of_drain? hdrain, hother⟩)
      have hne : other.number ≠ dispatch.number := by
        intro hnumber
        rw [hapart.eq_of_number hheld hturn.mem hnumber, hturn.isUnfinished] at hended
        cases hended
      refine Or.inl ⟨other, ?_, hended⟩
      exact List.mem_map.mpr ⟨other, hother, if_neg hne⟩
    · exact Or.inr ⟨by rw [Drain.advance, hnone]; rfl, hwaiting⟩

/-! ## Endless schedules -/

/-- The first moves of an endless schedule. -/
def first (schedule : Nat → Move) (count : Nat) : List Move := (List.range count).map schedule

/-- The flush after the first moves of a schedule. -/
def after (flush : Flush) (schedule : Nat → Move) (count : Nat) : Flush :=
  flush.run (first schedule count)

theorem after_succ (flush : Flush) (schedule : Nat → Move) (count : Nat) :
    flush.after schedule (count + 1) = (flush.after schedule count).step (schedule count) := by
  simp only [after, first, List.range_succ, List.map_append, List.map_cons, List.map_nil,
    Steps.run_append, Steps.run_cons, Steps.run_nil]

/-- A schedule that lets a drain come to its end: each of its dispatches ends, and whoever waits
for the drain goes on with it and looks for its report again and again, and does not give it up. -/
structure Fair (flush : Flush) (schedule : Nat → Move) : Prop where
  ends : ∀ count, ∀ dispatch ∈ (flush.after schedule count).dispatches, ∃ later, count ≤ later ∧
    ∀ other ∈ (flush.after schedule later).dispatches, other.number = dispatch.number →
      other.isUnfinished = false
  polls : ∀ count, ∃ later, count ≤ later ∧
    ∀ site, (flush.after schedule later).site = some site → schedule later = .poll site
  looks : ∀ count, ∃ later, count ≤ later ∧
    ∀ site, (flush.after schedule later).site = some site → schedule later = site.closing
  patient : ∀ count, ¬(flush.after schedule count).GivesUp (schedule count)

theorem invariants_after (hsound : flush.debouncer.Sound) (hapart : flush.debouncer.Apart)
    (schedule : Nat → Move) (count : Nat) :
    (flush.after schedule count).debouncer.Sound ∧ (flush.after schedule count).debouncer.Apart ∧
      (flush.after schedule count).debouncer.settings = flush.debouncer.settings := by
  rw [after, debouncer_run]
  exact ⟨hsound.run _, hapart.run hsound _, Debouncer.run_settings ..⟩

section Endless

variable {schedule : Nat → Move} {drains : Nat → Drain} (hsound : flush.debouncer.Sound)
  (hapart : flush.debouncer.Apart)
  (hlimit : 0 < flush.debouncer.settings.maxConcurrentDispatches)
  (hdrains : ∀ count, (flush.after schedule count).drain? = some (drains count))

include hsound hapart hlimit hdrains

theorem leadsTo_after {count later : Nat} (hle : count ≤ later) :
    (drains count).LeadsTo (drains later) := by
  induction hle with
  | refl => exact .refl _
  | @step later _ ih =>
      obtain ⟨hsound, hapart, hsettings⟩ := invariants_after hsound hapart schedule later
      have hnext := after_succ flush schedule later ▸ hdrains (later + 1)
      exact ih.trans (leadsTo_step hsound hapart (hsettings ▸ hlimit) (hdrains later) hnext)

/-- With something to do the drain gets further. -/
theorem further_of_ready (hfair : flush.Fair schedule) {count : Nat}
    (hready : (drains count).Ready) : ∃ later, (drains later).weight < (drains count).weight := by
  obtain ⟨later, hle, hpoll⟩ := hfair.polls count
  rcases leadsTo_after hsound hapart hlimit hdrains hle with hless | ⟨hsame, _, hkept⟩
  · exact ⟨later, hless⟩
  · obtain ⟨_, _, hsettings⟩ := invariants_after hsound hapart schedule later
    obtain ⟨site, hsite, _⟩ := Option.bind_eq_some_iff.mp (hdrains later)
    have hpolled := drain?_step_poll hsite (hdrains later)
    rw [← hpoll site hsite, ← after_succ, hdrains (later + 1), Option.some.injEq] at hpolled
    refine ⟨later + 1, ?_⟩
    rw [hpolled, ← hsame]
    exact ((drains later).weight_poll _ _ (hsettings ▸ hlimit)).resolve_right
      fun h => h.2 (hkept hready)

/-- A drain that is not complete gets further. -/
theorem further_of_weight (hfair : flush.Fair schedule) {count : Nat}
    (hweight : (drains count).weight ≠ 0) :
    ∃ later, (drains later).weight < (drains count).weight := by
  cases hdispatches : (drains count).dispatches with
  | nil =>
      have hwaiting : (drains count).waiting ≠ [] := by
        rintro hnone
        simp [Drain.weight, hdispatches, hnone] at hweight
      exact further_of_ready hsound hapart hlimit hdrains hfair (Or.inr ⟨hdispatches, hwaiting⟩)
  | cons dispatch rest =>
      have hmem : dispatch ∈ (drains count).dispatches := hdispatches ▸ List.mem_cons_self
      obtain ⟨later, hle, hends⟩ :=
        hfair.ends count dispatch (dispatches_of_drain? (hdrains count) ▸ hmem)
      rcases leadsTo_after hsound hapart hlimit hdrains hle with hless | ⟨hsame, hnumbers, _⟩
      · exact ⟨later, hless⟩
      · -- The dispatch is still there, and has ended.
        have hnumber := List.mem_map_of_mem (f := Dispatch.number) hmem
        rw [← hnumbers] at hnumber
        obtain ⟨other, hother, hnumber⟩ := List.mem_map.mp hnumber
        have hended := hends other (dispatches_of_drain? (hdrains later) ▸ hother) hnumber
        rw [← hsame]
        exact further_of_ready hsound hapart hlimit hdrains hfair (Or.inl ⟨other, hother, hended⟩)

theorem exists_weight_zero (hfair : flush.Fair schedule) (count : Nat) :
    ∃ later, (drains later).weight = 0 := by
  generalize hrest : (drains count).weight = rest
  induction rest using Nat.strongRecOn generalizing count with
  | ind rest ih =>
      by_cases hweight : (drains count).weight = 0
      · exact ⟨count, hweight⟩
      · obtain ⟨later, hless⟩ := further_of_weight hsound hapart hlimit hdrains hfair hweight
        exact ih _ (hrest ▸ hless) later rfl

end Endless

/-- Under a schedule that lets a drain come to its end its report is taken. -/
theorem exists_returned (hsound : flush.debouncer.Sound) (hapart : flush.debouncer.Apart)
    (hlimit : 0 < flush.debouncer.settings.maxConcurrentDispatches)
    (hdrain : flush.drain?.isSome) {schedule : Nat → Move} (hfair : flush.Fair schedule) :
    ∃ count report, report ∈ flush.history returned (first schedule count) := by
  by_contra hnever
  push Not at hnever
  have hnone : ∀ count, (flush.after schedule count).returned (schedule count) = [] := by
    intro count
    rw [List.eq_nil_iff_forall_not_mem]
    intro report hreport
    refine hnever (count + 1) report ?_
    simp only [first, List.range_succ, List.map_append, Steps.history_append]
    exact List.mem_append_right _ (List.mem_append_left _ hreport)
  -- Then the drain goes on for ever.
  have hdrains : ∀ count, ∃ drain, (flush.after schedule count).drain? = some drain := by
    intro count
    induction count with
    | zero => exact Option.isSome_iff_exists.mp hdrain
    | succ count ih =>
        obtain ⟨drain, hdrain⟩ := ih
        rw [after_succ]
        cases goes (invariants_after hsound hapart schedule count).1 hdrain (schedule count) with
        | stays hlater => exact ⟨_, hlater⟩
        | polled hlater => exact ⟨_, hlater⟩
        | moved _ _ _ hlater => exact ⟨_, hlater⟩
        | closed _ _ _ hreturned => cases (hnone count).symm.trans hreturned
        | lost _ hgives => exact absurd hgives (hfair.patient count)
  choose drains hdrains using hdrains
  obtain ⟨count, hcount⟩ := exists_weight_zero hsound hapart hlimit hdrains hfair 0
  obtain ⟨later, hle, hlooks⟩ := hfair.looks count
  have hweight : (drains later).weight = 0 := by
    rcases leadsTo_after hsound hapart hlimit hdrains hle with hless | ⟨hsame, _⟩ <;> omega
  obtain ⟨site, hsite, _⟩ := Option.bind_eq_some_iff.mp (hdrains later)
  have hcomplete := (drains later).isComplete_of_weight hweight
  have hreturned := returned_closing hsite (hdrains later) hcomplete
  rw [← hlooks site hsite, hnone] at hreturned
  cases hreturned

/-- A schedule by which the drain comes to its end is fair, unless the drain is given up. -/
theorem fair_of_ended {schedule : Nat → Move} {count : Nat}
    (hsite : (flush.after schedule count).site = none)
    (hpatient : ∀ count, schedule count ≠ .heed ∧ ∀ index, schedule count ≠ .abandonCall index) :
    flush.Fair schedule := by
  have hlater (later : Nat) (hle : count ≤ later) : (flush.after schedule later).site = none := by
    induction hle with
    | refl => exact hsite
    | @step later _ ih => rw [after_succ, step, ih, Option.bind_none]
  -- Nothing is left to be done after the end.
  have hend (other : Nat) : ∃ later, other ≤ later ∧ (flush.after schedule later).site = none :=
    ⟨max other count, Nat.le_max_left .., hlater _ (Nat.le_max_right ..)⟩
  refine ⟨fun other dispatch _ => ?_, fun other => ?_, fun other => ?_, fun other => ?_⟩
  · obtain ⟨later, hle, hnone⟩ := hend other
    exact ⟨later, hle, by simp [dispatches, drain?, hnone]⟩
  · obtain ⟨later, hle, hnone⟩ := hend other
    exact ⟨later, hle, by simp [hnone]⟩
  · obtain ⟨later, hle, hnone⟩ := hend other
    exact ⟨later, hle, by simp [hnone]⟩
  · obtain ⟨hheed, habandon⟩ := hpatient other
    cases hmove : schedule other <;> simp_all [GivesUp]

end Flush

end Rescan.Debounce
