import Rescan.Proofs.Supervision.Events

/-! # The grace period

Once the tasks have been told to end, the supervisor returns when the last of them has ended or
when the grace period is over, whichever comes first. What happens in between changes neither the
failure that it returns nor which tasks were told to end.
-/

namespace Rescan.Supervisor.Trial

/-- Two trials return the same failure and have told the same tasks to end at the same times. -/
structure Agrees (trial other : Trial) : Prop where
  failure_eq : other.supervisor.failure = trial.supervisor.failure
  cancelled_iff : ∀ entry : Entry, entry.happening = .cancelled →
    (entry ∈ other.log ↔ entry ∈ trial.log)

theorem Agrees.trans {trial other third : Trial} (hfirst : trial.Agrees other)
    (hsecond : other.Agrees third) : trial.Agrees third :=
  ⟨hsecond.failure_eq.trans hfirst.failure_eq, fun entry hentry =>
    (hsecond.cancelled_iff entry hentry).trans (hfirst.cancelled_iff entry hentry)⟩

/-- The supervisor has returned and no task is left. -/
structure Over (time : Nat) (trial : Trial) : Prop where
  phase_eq : trial.supervisor.phase = .returned time
  actors_eq : trial.actors = []

theorem Over.event?_eq_none {time : Nat} {trial : Trial} (hover : trial.Over time) :
    trial.event? = none := by
  have hfirst : trial.first? = none := first?_eq_none.mpr (by simp [hover.actors_eq])
  have houtside : trial.outside? = none := by simp [outside?, hover.phase_eq]
  simp [event?, hfirst, houtside]

/-- The tasks have been told to end, and the supervisor will return at a certain time: at the end
of the grace period or when all tasks have ended, and not before. -/
structure Winding (since due : Nat) (trial : Trial) : Prop where
  coherent : trial.Coherent
  phase_eq : trial.supervisor.phase = .stopping since
  left : trial.actors ≠ []
  within : due ≤ since + trial.supervisor.graceMs
  enough : due = since + trial.supervisor.graceMs ∨
    ∀ actor ∈ trial.actors, ∃ fate, actor.fate = some fate ∧ fate.1 ≤ due
  needed : ∃ actor ∈ trial.actors, ∀ fate, actor.fate = some fate → due ≤ fate.1

theorem Winding.outside? {since due : Nat} {trial : Trial} (hwinding : trial.Winding since due) :
    trial.outside? = some (since + trial.supervisor.graceMs,
      { trial.supervisor with phase := .returned (since + trial.supervisor.graceMs) }) := by
  simp [Trial.outside?, hwinding.phase_eq, deadline?, expire]

/-- When a task ends, it is the last one and ends at the time at which the supervisor returns, or
the supervisor goes on as before. -/
theorem Winding.finish {since due : Nat} {trial : Trial} (hwinding : trial.Winding since due)
    {actor : Actor} {time : Nat} {ending : Ending} (hmem : actor ∈ trial.actors)
    (hfate : actor.fate = some (time, ending))
    (hfirst : ∀ other ∈ trial.actors, ∀ fate, other.fate = some fate → time ≤ fate.1)
    (hwithin : time ≤ since + trial.supervisor.graceMs) :
    trial.Agrees (trial.finish actor time ending) ∧
      ((trial.finish actor time ending).Over due ∨
        (trial.finish actor time ending).Winding since due ∧
          (trial.finish actor time ending).actors.length < trial.actors.length) := by
  have hcoherent := hwinding.coherent
  have hphase : ∀ time, trial.supervisor.phase ≠ .returned time := by simp [hwinding.phase_eq]
  have hrunning : trial.supervisor.phase ≠ .running := by simp [hwinding.phase_eq]
  obtain ⟨latest, hlatest, hdue⟩ := hwinding.needed
  by_cases hrest : trial.rest actor = []
  · -- the task that makes the supervisor wait is the last one
    rw [finish_of_last hcoherent hphase hrest, if_neg hrunning]
    have hactor : latest = actor := by
      by_contra hne
      have := (hcoherent.mem_rest hmem).mpr ⟨hlatest, hne⟩
      simp [hrest] at this
    have htime : time = due := by
      have hle := hdue _ (hactor ▸ hfate)
      rcases hwinding.enough with hend | hall
      · omega
      · obtain ⟨fate, hfate', hle'⟩ := hall actor hmem
        cases hfate.symm.trans hfate'
        exact Nat.le_antisymm hle' hle
    exact ⟨⟨rfl, fun _ hentry => mem_log_settle (by simp [hentry])⟩, .inl ⟨by rw [htime], hrest⟩⟩
  · rw [finish_of_quiet hcoherent hphase (fun h => absurd h hrunning) hrest]
    have hleft : ∃ other ∈ trial.rest actor, ∀ fate, other.fate = some fate → due ≤ fate.1 := by
      by_cases hactor : latest = actor
      · -- every other task ends no earlier than this one
        obtain ⟨other, hother⟩ := List.exists_mem_of_ne_nil _ hrest
        refine ⟨other, hother, fun fate hfate' => ?_⟩
        have hle := hdue _ (hactor ▸ hfate)
        exact Nat.le_trans hle
          (hfirst other ((hcoherent.mem_rest hmem).mp hother).1 fate hfate')
      · exact ⟨latest, (hcoherent.mem_rest hmem).mpr ⟨hlatest, hactor⟩, hdue⟩
    refine ⟨⟨rfl, fun _ hentry => mem_log_settle (by simp [hentry])⟩, .inr ⟨?_, ?_⟩⟩
    · exact ⟨hcoherent.settle time, hwinding.phase_eq, hrest, hwinding.within,
        hwinding.enough.imp_right fun hall other hother =>
          hall other ((hcoherent.mem_rest hmem).mp hother).1, hleft⟩
    · exact length_rest hmem

/-- When the grace period ends before any task, the supervisor returns at its end. -/
theorem Winding.expire {since due : Nat} {trial : Trial} (hwinding : trial.Winding since due)
    (hlate : ∀ actor ∈ trial.actors, ∀ fate, actor.fate = some fate →
      since + trial.supervisor.graceMs < fate.1) :
    let expired := trial.follow { trial.supervisor with
      phase := .returned (since + trial.supervisor.graceMs) } (since + trial.supervisor.graceMs)
    trial.Agrees expired ∧ expired.Over due := by
  have hdue : due = since + trial.supervisor.graceMs := by
    rcases hwinding.enough with hend | hall
    · exact hend
    · obtain ⟨actor, hmem⟩ := List.exists_mem_of_ne_nil _ hwinding.left
      obtain ⟨fate, hfate, hle⟩ := hall actor hmem
      have := hlate actor hmem fate hfate
      have := hwinding.within
      omega
  simp only [follow, hasReturned, if_true, abortAll_eq]
  refine ⟨⟨rfl, fun entry hentry => ?_⟩, by rw [hdue], rfl⟩
  simp only [List.mem_append, List.mem_reverse, List.mem_map, or_iff_right_iff_imp]
  rintro ⟨actor, -, rfl⟩
  cases hentry

theorem Winding.step {since due : Nat} {trial : Trial} (hwinding : trial.Winding since due) :
    trial.Agrees trial.step ∧ (trial.step.Over due ∨
      trial.step.Winding since due ∧ trial.step.actors.length < trial.actors.length) := by
  cases hevent : trial.event? with
  | none => cases hwinding.outside?.symm.trans (of_event?_eq_none hevent).2
  | some event =>
      obtain ⟨time, next⟩ := event
      rw [step_of_event?_eq_some hevent]
      cases happens_of_event? hevent with
      | ends hfirst hinside =>
          obtain ⟨hmem, hfate⟩ := mem_of_first?_eq_some hfirst
          refine hwinding.finish hmem hfate (fun other hother fate hfate => ?_)
            (hinside _ _ hwinding.outside?)
          have := hwinding.coherent.precedes_of_first? hfirst other hother fate hfate
          simp only [Precedes] at this
          omega
      | outside houtside hbefore =>
          cases hwinding.outside?.symm.trans houtside
          have hexpired := hwinding.expire (hwinding.coherent.lt_of_before hbefore)
          exact ⟨hexpired.1, .inl hexpired.2⟩

/-- With enough steps the supervisor returns at the time at which it is due. -/
theorem Winding.steps {since due : Nat} {trial : Trial} (hwinding : trial.Winding since due)
    {count : Nat} (hcount : trial.actors.length < count) :
    trial.Agrees (steps count trial) ∧ (steps count trial).Over due := by
  induction count generalizing trial with
  | zero => exact absurd hcount (Nat.not_lt_zero _)
  | succ count ih =>
      obtain ⟨hagrees, hover | ⟨hnext, hlt⟩⟩ := hwinding.step
      · rw [Trial.steps, steps_of_event?_eq_none hover.event?_eq_none]
        exact ⟨hagrees, hover⟩
      · obtain ⟨hrest, hover⟩ := ih hnext (by omega)
        exact ⟨hagrees.trans hrest, hover⟩

end Rescan.Supervisor.Trial
