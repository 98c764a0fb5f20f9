import Mathlib.Data.List.Nodup
import Rescan.Supervisor.Trial

/-! # Events of a trial

The next event of a trial is the end of the task that ends first or something that happens to the
supervisor from outside, whichever comes earlier. What has happened up to a moment is all events
with times up to that moment.
-/

namespace Rescan.Supervisor

/-! ## The way of a supervisor -/

/-- How many times a phase can still change. -/
def Phase.rank : Phase → Nat
  | .running => 2
  | .stopping _ => 1
  | .returned _ => 0

theorem isCancelled_iff (supervisor : Supervisor) :
    supervisor.isCancelled = true ↔ supervisor.phase.rank < 2 := by
  cases hphase : supervisor.phase <;> simp [isCancelled, hphase, Phase.rank]

theorem rank_conclude_le (supervisor : Supervisor) (now : Nat) :
    (supervisor.conclude now).phase.rank ≤ supervisor.phase.rank := by
  cases hphase : supervisor.phase with
  | returned time => simp [conclude, hphase]
  | running =>
      simp only [conclude, hphase]
      split <;> simp [Phase.rank, hphase]
  | stopping since =>
      simp only [conclude, hphase]
      split <;> simp [Phase.rank, hphase]

theorem rank_taskEnded_le (supervisor : Supervisor) (task now : Nat) (ending : Ending) :
    (supervisor.taskEnded task now ending).phase.rank ≤ supervisor.phase.rank := by
  unfold taskEnded
  dsimp only
  split
  next hphase _ =>
    refine Nat.le_trans (rank_conclude_le _ now) ?_
    simp [hphase, Phase.rank]
  · exact rank_conclude_le _ now

namespace Trial

/-! ## The task that ends first -/

/-- Of two ends the one with the earlier time comes first, at one time that of the task with the
smaller number. -/
def Precedes (a b : Actor × Nat × Ending) : Prop :=
  a.2.1 < b.2.1 ∨ a.2.1 = b.2.1 ∧ a.1.number ≤ b.1.number

theorem mem_pending {trial : Trial} {actor : Actor} {fate : Nat × Ending} :
    (actor, fate) ∈ trial.pending ↔ actor ∈ trial.actors ∧ actor.fate = some fate := by
  simp only [pending, List.mem_filterMap, Option.map_eq_some_iff, Prod.mk.injEq]
  constructor
  · rintro ⟨other, hmem, other', hfate, rfl, rfl⟩
    exact ⟨hmem, hfate⟩
  · rintro ⟨hmem, hfate⟩
    exact ⟨actor, hmem, fate, hfate, rfl, rfl⟩

theorem exists_foldl_earlier (ends : List (Actor × Nat × Ending)) (best : Actor × Nat × Ending) :
    ∃ first ∈ best :: ends, ends.foldl earlier (some best) = some first := by
  induction ends generalizing best with
  | nil => exact ⟨best, List.mem_cons_self, rfl⟩
  | cons next ends ih =>
      rw [List.foldl_cons, earlier]
      split
      · obtain ⟨first, hmem, hfirst⟩ := ih next
        exact ⟨first, List.mem_cons_of_mem _ hmem, hfirst⟩
      · obtain ⟨first, hmem, hfirst⟩ := ih best
        refine ⟨first, ?_, hfirst⟩
        rcases List.mem_cons.mp hmem with rfl | hmem
        · exact List.mem_cons_self
        · exact List.mem_cons_of_mem _ (List.mem_cons_of_mem _ hmem)

theorem precedes_of_foldl_earlier {ends : List (Actor × Nat × Ending)}
    {best first : Actor × Nat × Ending}
    (hsorted : (best :: ends).Pairwise fun a b => a.1.number < b.1.number)
    (hfirst : ends.foldl earlier (some best) = some first) :
    ∀ other ∈ best :: ends, Precedes first other := by
  induction ends generalizing best with
  | nil =>
      cases hfirst
      simp [Precedes]
  | cons next ends ih =>
      rw [List.pairwise_cons, List.pairwise_cons] at hsorted
      obtain ⟨hbest, hnext, hsorted⟩ := hsorted
      have hnumber := hbest next List.mem_cons_self
      -- the better of the first two precedes the other one
      suffices hall : Precedes first best ∧ Precedes first next ∧
          ∀ other ∈ ends, Precedes first other by
        simpa [or_imp, forall_and] using hall
      by_cases hlt : next.2.1 < best.2.1
      · simp only [List.foldl_cons, earlier, if_pos hlt] at hfirst
        have hall := ih (List.pairwise_cons.mpr ⟨hnext, hsorted⟩) hfirst
        have hself := hall next List.mem_cons_self
        refine ⟨?_, hself, fun other hother => hall other (List.mem_cons_of_mem _ hother)⟩
        unfold Precedes at hself ⊢
        omega
      · simp only [List.foldl_cons, earlier, if_neg hlt] at hfirst
        have hall := ih (List.pairwise_cons.mpr
          ⟨fun other hother => hbest other (List.mem_cons_of_mem _ hother), hsorted⟩) hfirst
        have hself := hall best List.mem_cons_self
        refine ⟨hself, ?_, fun other hother => hall other (List.mem_cons_of_mem _ hother)⟩
        unfold Precedes at hself ⊢
        omega

theorem mem_of_first?_eq_some {trial : Trial} {first : Actor × Nat × Ending}
    (hfirst : trial.first? = some first) :
    first.1 ∈ trial.actors ∧ first.1.fate = some first.2 := by
  rw [← mem_pending]
  unfold first? at hfirst
  cases hends : trial.pending with
  | nil => simp [hends] at hfirst
  | cons best ends =>
      obtain ⟨found, hmem, hfound⟩ := exists_foldl_earlier ends best
      rw [hends] at hfirst
      cases hfound.symm.trans hfirst
      exact hmem

theorem first?_eq_none {trial : Trial} :
    trial.first? = none ↔ ∀ actor ∈ trial.actors, actor.fate = none := by
  have hnil : trial.pending = [] ↔ ∀ actor ∈ trial.actors, actor.fate = none := by
    simp [pending]
  rw [← hnil, first?]
  cases trial.pending with
  | nil => simp
  | cons best ends =>
      obtain ⟨first, -, hfirst⟩ := exists_foldl_earlier ends best
      simp [earlier, hfirst]

/-- The supervisor and the trial agree on the tasks that have not ended, which stand in the order
of their numbers. -/
structure Coherent (trial : Trial) : Prop where
  sorted : trial.actors.Pairwise (·.number < ·.number)
  live_eq : trial.supervisor.live = trial.actors.map (·.number)

theorem Coherent.pending_sorted {trial : Trial} (hcoherent : trial.Coherent) :
    trial.pending.Pairwise fun a b => a.1.number < b.1.number := by
  refine hcoherent.sorted.filterMap _ fun a b hlt fate hfate fate' hfate' => ?_
  simp only [Option.map_eq_some_iff] at hfate hfate'
  obtain ⟨_, -, rfl⟩ := hfate
  obtain ⟨_, -, rfl⟩ := hfate'
  exact hlt

theorem Coherent.precedes_of_first? {trial : Trial} (hcoherent : trial.Coherent)
    {first : Actor × Nat × Ending} (hfirst : trial.first? = some first) :
    ∀ actor ∈ trial.actors, ∀ fate, actor.fate = some fate → Precedes first (actor, fate) := by
  intro actor hactor fate hfate
  have hmem := mem_pending.mpr ⟨hactor, hfate⟩
  have hsorted := hcoherent.pending_sorted
  unfold first? at hfirst
  cases hends : trial.pending with
  | nil => simp [hends] at hmem
  | cons best ends =>
      rw [hends] at hfirst hmem hsorted
      exact precedes_of_foldl_earlier hsorted hfirst _ hmem

/-! ## The next event -/

theorem step_of_event?_eq_some {trial next : Trial} {time : Nat}
    (hevent : trial.event? = some (time, next)) : trial.step = next := by
  rw [step, hevent]

theorem step_of_event?_eq_none {trial : Trial} (hevent : trial.event? = none) :
    trial.step = trial := by
  rw [step, hevent]

/-- What the next event can be: the first task ends, or something happens from outside before
that. -/
inductive Happens (trial : Trial) : Nat → Trial → Prop
  | ends {actor : Actor} {time : Nat} {ending : Ending}
      (hfirst : trial.first? = some (actor, time, ending))
      (hinside : ∀ other supervisor, trial.outside? = some (other, supervisor) → time ≤ other) :
      Happens trial time (trial.finish actor time ending)
  | outside {time : Nat} {supervisor : Supervisor}
      (houtside : trial.outside? = some (time, supervisor))
      (hbefore : ∀ first, trial.first? = some first → time < first.2.1) :
      Happens trial time (trial.follow supervisor time)

theorem happens_of_event? {trial next : Trial} {time : Nat}
    (hevent : trial.event? = some (time, next)) : trial.Happens time next := by
  unfold event? at hevent
  split at hevent
  · cases hevent
  next hfirst houtside =>
    cases hevent
    exact .outside houtside fun _ hsome => by simp [hfirst] at hsome
  next hfirst houtside =>
    cases hevent
    exact .ends hfirst fun _ _ hsome => by simp [houtside] at hsome
  next hfirst houtside =>
    split at hevent <;> cases hevent
    next hle =>
      refine .ends hfirst fun _ _ hsome => ?_
      cases houtside.symm.trans hsome
      exact hle
    next hlt =>
      refine .outside houtside fun _ hsome => ?_
      cases hfirst.symm.trans hsome
      exact Nat.lt_of_not_le hlt

theorem of_event?_eq_none {trial : Trial} (hnone : trial.event? = none) :
    (∀ actor ∈ trial.actors, actor.fate = none) ∧ trial.outside? = none := by
  unfold event? at hnone
  split at hnone
  next hfirst houtside => exact ⟨first?_eq_none.mp hfirst, houtside⟩
  · cases hnone
  · cases hnone
  · split at hnone <;> cases hnone

/-- What happens before the first task ends happens before any task ends. -/
theorem Coherent.lt_of_before {trial : Trial} (hcoherent : trial.Coherent) {time : Nat}
    (hbefore : ∀ first, trial.first? = some first → time < first.2.1) :
    ∀ actor ∈ trial.actors, ∀ fate, actor.fate = some fate → time < fate.1 := by
  intro actor hactor fate hfate
  cases hfirst : trial.first? with
  | none => simp [first?_eq_none.mp hfirst actor hactor] at hfate
  | some first =>
      have hlt := hbefore first hfirst
      have hprecedes := hcoherent.precedes_of_first? hfirst actor hactor fate hfate
      simp only [Precedes] at hprecedes
      omega

/-! ## Notes on all tasks -/

theorem foldl_note (trial : Trial) (now : Nat) (happening : Happening) (actors : List Actor) :
    actors.foldl (fun trial actor => trial.note now actor happening) trial =
      { trial with
        log :=
          (actors.map fun actor => ⟨now, actor.plan.name, happening⟩).reverse ++ trial.log } := by
  induction actors generalizing trial with
  | nil => rfl
  | cons actor actors ih => rw [List.foldl_cons, ih]; simp [note]

theorem cancelAll_eq (trial : Trial) (now : Nat) :
    trial.cancelAll now =
      { trial with
        actors := trial.actors.map (·.told now)
        log := ((trial.actors.filter (·.plan.reaction.isSome)).map fun actor =>
          ⟨now, actor.plan.name, .cancelled⟩).reverse ++ trial.log } := by
  simp [cancelAll, foldl_note]

theorem abortAll_eq (trial : Trial) (now : Nat) :
    trial.abortAll now =
      { trial with
        actors := []
        log := (trial.actors.map fun actor =>
          ⟨now, actor.plan.name, .aborted⟩).reverse ++ trial.log } := by
  simp [abortAll, foldl_note]

/-! ## The end of a task -/

/-- The supervisor when a task has ended, before it draws conclusions. -/
def survivors (trial : Trial) (actor : Actor) : Supervisor :=
  { trial.supervisor with live := (trial.rest actor).map (·.number) }

/-- A trial when a task has ended, before the supervisor draws conclusions. -/
def settle (trial : Trial) (actor : Actor) (now : Nat) : Trial :=
  { trial with
    supervisor := trial.survivors actor
    actors := trial.rest actor
    log := ⟨now, actor.plan.name, .finished⟩ :: trial.log }

theorem mem_log_settle {trial : Trial} {actor : Actor} {now : Nat} {entry : Entry}
    (hentry : entry.happening ≠ .finished) :
    entry ∈ (trial.settle actor now).log ↔ entry ∈ trial.log := by
  simp only [settle, List.mem_cons, or_iff_right_iff_imp]
  rintro rfl
  exact absurd rfl hentry

section Finish

variable {trial : Trial} (hcoherent : trial.Coherent) {actor : Actor}

include hcoherent

theorem Coherent.nodup_numbers : (trial.actors.map (·.number)).Nodup :=
  (List.pairwise_map.mpr hcoherent.sorted).imp Nat.ne_of_lt

theorem Coherent.mem_rest (hactor : actor ∈ trial.actors) {other : Actor} :
    other ∈ trial.rest actor ↔ other ∈ trial.actors ∧ other ≠ actor := by
  simp only [rest, List.mem_filter, bne_iff_ne, ne_eq]
  constructor
  · rintro ⟨hother, hne⟩
    exact ⟨hother, fun heq => hne (heq ▸ rfl)⟩
  · rintro ⟨hother, hne⟩
    exact ⟨hother, fun heq =>
      hne (List.inj_on_of_nodup_map hcoherent.nodup_numbers hother hactor heq)⟩

omit hcoherent in
theorem length_rest (hactor : actor ∈ trial.actors) :
    (trial.rest actor).length < trial.actors.length :=
  List.length_filter_lt_length_iff_exists.mpr ⟨actor, hactor, by simp⟩

theorem Coherent.erase_live (actor : Actor) :
    trial.supervisor.live.erase actor.number = (trial.rest actor).map (·.number) := by
  rw [hcoherent.live_eq, hcoherent.nodup_numbers.erase_eq_filter, List.filter_map]
  rfl

theorem Coherent.settle (now : Nat) : (trial.settle actor now).Coherent :=
  ⟨hcoherent.sorted.filter _, rfl⟩

variable {now : Nat} {ending : Ending}

/-- The end of a task has no consequence when other tasks are left and it is no failure that
makes the supervisor stop. -/
theorem finish_of_quiet (hphase : ∀ time, trial.supervisor.phase ≠ .returned time)
    (hquiet : trial.supervisor.phase = .running → ending.failure? = none)
    (hrest : trial.rest actor ≠ []) : trial.finish actor now ending = trial.settle actor now := by
  have herase := hcoherent.erase_live actor
  cases hrun : trial.supervisor.phase with
  | returned time => exact absurd hrun (hphase time)
  | running =>
      simp [finish, note, taskEnded, hquiet hrun, hrun, conclude, herase, hrest, follow,
        hasReturned, isCancelled, Trial.settle, survivors]
  | stopping since =>
      simp [finish, note, taskEnded, hrun, conclude, herase, hrest, follow, hasReturned,
        isCancelled, Trial.settle, survivors]

/-- A failure makes the supervisor tell the other tasks to end. -/
theorem finish_of_fails (hphase : trial.supervisor.phase = .running) {failure : Failure}
    (hfails : ending.failure? = some failure) (hrest : trial.rest actor ≠ []) :
    trial.finish actor now ending =
      ({ trial.settle actor now with
        supervisor := { trial.survivors actor with
          phase := .stopping now, failure := some failure } } : Trial).cancelAll now := by
  have herase := hcoherent.erase_live actor
  simp [finish, note, taskEnded, hfails, hphase, conclude, herase, hrest, follow, hasReturned,
    isCancelled, Trial.settle, survivors]

/-- When the last task ends the supervisor returns, with the failure of the task if it has not
been told to end. -/
theorem finish_of_last (hphase : ∀ time, trial.supervisor.phase ≠ .returned time)
    (hrest : trial.rest actor = []) :
    trial.finish actor now ending =
      { trial.settle actor now with
        supervisor := { trial.survivors actor with
          phase := .returned now
          failure :=
            if trial.supervisor.phase = .running then ending.failure? <|> trial.supervisor.failure
            else trial.supervisor.failure } } := by
  have herase := hcoherent.erase_live actor
  cases hrun : trial.supervisor.phase with
  | returned time => exact absurd hrun (hphase time)
  | running =>
      cases hfails : ending.failure? <;>
        simp [finish, note, taskEnded, hrun, hfails, conclude, herase, hrest, follow, hasReturned,
          abortAll_eq, Trial.settle, survivors]
  | stopping since =>
      simp [finish, note, taskEnded, hrun, conclude, herase, hrest, follow, hasReturned,
        abortAll_eq, Trial.settle, survivors]

end Finish

/-! ## Progress -/

theorem rank_lt_of_outside? {trial : Trial} {time : Nat} {supervisor : Supervisor}
    (houtside : trial.outside? = some (time, supervisor)) :
    supervisor.phase.rank < trial.supervisor.phase.rank := by
  unfold outside? at houtside
  split at houtside
  next hphase =>
    obtain ⟨_, -, heq⟩ := Option.map_eq_some_iff.mp houtside
    cases heq
    simp [Supervisor.stop, hphase, Phase.rank]
  next hphase =>
    obtain ⟨_, -, heq⟩ := Option.map_eq_some_iff.mp houtside
    cases heq
    simp [expire, hphase, Phase.rank]
  · cases houtside

theorem follow_supervisor (trial : Trial) (supervisor : Supervisor) (now : Nat) :
    (trial.follow supervisor now).supervisor = supervisor := by
  unfold follow
  dsimp only
  split
  · simp [abortAll_eq]
  · split <;> simp [cancelAll_eq]

theorem length_follow_le (trial : Trial) (supervisor : Supervisor) (now : Nat) :
    (trial.follow supervisor now).actors.length ≤ trial.actors.length := by
  unfold follow
  dsimp only
  split
  · simp [abortAll_eq]
  · split <;> simp [cancelAll_eq]

/-- An event never adds a task or turns the supervisor back, and a task ends or the supervisor
moves on. -/
theorem progress_of_event? {trial next : Trial} {time : Nat}
    (hevent : trial.event? = some (time, next)) :
    next.actors.length ≤ trial.actors.length ∧
      next.supervisor.phase.rank ≤ trial.supervisor.phase.rank ∧
      (next.actors.length < trial.actors.length ∨
        next.supervisor.phase.rank < trial.supervisor.phase.rank) := by
  cases happens_of_event? hevent with
  | @ends actor _ ending hfirst hinside =>
      have hlength : (trial.finish actor time ending).actors.length < trial.actors.length :=
        Nat.lt_of_le_of_lt (length_follow_le _ _ _)
          (length_rest (mem_of_first?_eq_some hfirst).1)
      refine ⟨Nat.le_of_lt hlength, ?_, .inl hlength⟩
      rw [finish, follow_supervisor]
      exact rank_taskEnded_le _ _ _ _
  | outside houtside hbefore =>
      rw [follow_supervisor]
      have hrank := rank_lt_of_outside? houtside
      exact ⟨length_follow_le _ _ _, Nat.le_of_lt hrank, .inr hrank⟩

/-- How many events can still come. -/
def remaining (trial : Trial) : Nat :=
  trial.actors.length + trial.supervisor.phase.rank

theorem remaining_lt_of_event? {trial next : Trial} {time : Nat}
    (hevent : trial.event? = some (time, next)) : next.remaining < trial.remaining := by
  have := progress_of_event? hevent
  unfold remaining
  omega

theorem remaining_begin_le (plans : List Plan) (stops : List Nat) (graceMs : Nat) :
    (begin plans stops graceMs).remaining ≤ plans.length + 2 := by
  have hlength : (begin plans stops graceMs).actors.length = plans.length := by
    simp [begin, actorsOf]
  have hrank : ∀ phase : Phase, phase.rank ≤ 2 := by
    intro phase
    cases phase <;> simp [Phase.rank]
  have := hrank (begin plans stops graceMs).supervisor.phase
  unfold remaining
  omega

theorem steps_of_event?_eq_none {trial : Trial} (hnone : trial.event? = none) (count : Nat) :
    steps count trial = trial := by
  induction count with
  | zero => rfl
  | succ count ih => rw [steps, step_of_event?_eq_none hnone, ih]

theorem event?_steps_eq_none {trial : Trial} {count : Nat} (hcount : trial.remaining ≤ count) :
    (steps count trial).event? = none := by
  induction count generalizing trial with
  | zero =>
      cases hevent : trial.event? with
      | none => exact hevent
      | some event =>
          have := remaining_lt_of_event? hevent
          omega
  | succ count ih =>
      cases hevent : trial.event? with
      | none => rwa [steps_of_event?_eq_none hevent]
      | some event =>
          have := remaining_lt_of_event? hevent
          rw [steps, step_of_event?_eq_some hevent]
          exact ih (by omega)

/-- After a whole run nothing happens any more. -/
theorem event?_run_eq_none (plans : List Plan) (stops : List Nat) (graceMs : Nat) :
    (run plans stops graceMs).event? = none :=
  event?_steps_eq_none (remaining_begin_le plans stops graceMs)

/-! ## Passing of time -/

/-- Moves through the events up to a moment, at most the given number. -/
def pass (moment : Nat) : Nat → Trial → Trial
  | 0, trial => trial
  | count + 1, trial =>
    match trial.event? with
    | some (time, next) => if time ≤ moment then pass moment count next else trial
    | none => trial

/-- The trial once everything up to a moment has happened. -/
def atMoment (plans : List Plan) (stops : List Nat) (graceMs moment : Nat) : Trial :=
  pass moment (plans.length + 2) (begin plans stops graceMs)

/-- With enough events nothing is left to happen up to the moment. -/
theorem lt_of_event?_pass {moment count : Nat} {trial : Trial} (hcount : trial.remaining ≤ count)
    {time : Nat} {next : Trial} (hevent : (pass moment count trial).event? = some (time, next)) :
    moment < time := by
  induction count generalizing trial with
  | zero =>
      have := remaining_lt_of_event? hevent
      rw [pass] at this
      omega
  | succ count ih =>
      rw [pass] at hevent
      split at hevent
      next first after hfirst =>
        split at hevent
        · have := remaining_lt_of_event? hfirst
          exact ih (by omega) hevent
        next hlate =>
          cases hfirst.symm.trans hevent
          exact Nat.lt_of_not_le hlate
      next hnone => cases hnone.symm.trans hevent

theorem lt_of_event?_atMoment {plans : List Plan} {stops : List Nat} {graceMs moment time : Nat}
    {next : Trial} (hevent : (atMoment plans stops graceMs moment).event? = some (time, next)) :
    moment < time :=
  lt_of_event?_pass (remaining_begin_le plans stops graceMs) hevent

theorem exists_pass_eq_steps (moment count : Nat) (trial : Trial) :
    ∃ passed ≤ count, pass moment count trial = steps passed trial := by
  induction count generalizing trial with
  | zero => exact ⟨0, Nat.le_refl 0, rfl⟩
  | succ count ih =>
      rw [pass]
      split
      next time next hevent =>
        split
        · obtain ⟨passed, hle, hpassed⟩ := ih next
          refine ⟨passed + 1, Nat.succ_le_succ hle, ?_⟩
          rw [hpassed, steps, step_of_event?_eq_some hevent]
        · exact ⟨0, Nat.zero_le _, rfl⟩
      · exact ⟨0, Nat.zero_le _, rfl⟩

/-- What has happened up to a moment is the beginning of the whole run. -/
theorem exists_atMoment_eq_steps (plans : List Plan) (stops : List Nat) (graceMs moment : Nat) :
    ∃ passed ≤ plans.length + 2,
      atMoment plans stops graceMs moment = steps passed (begin plans stops graceMs) :=
  exists_pass_eq_steps moment _ _

/-- An order to end is not taken back. -/
theorem isCancelled_pass (moment count : Nat) {trial : Trial}
    (hcancelled : trial.supervisor.isCancelled = true) :
    (pass moment count trial).supervisor.isCancelled = true := by
  induction count generalizing trial with
  | zero => exact hcancelled
  | succ count ih =>
      rw [pass]
      split
      next time next hevent =>
        split
        · rw [isCancelled_iff] at hcancelled
          refine ih ((isCancelled_iff _).mpr ?_)
          exact Nat.lt_of_le_of_lt (progress_of_event? hevent).2.1 hcancelled
        · exact hcancelled
      · exact hcancelled

end Trial

end Rescan.Supervisor
