import Rescan.Proofs.Supervision.Ends
import Rescan.Proofs.Supervision.Grace

/-! # The decision of a run

Before a run of the supervisor is decided no task is told to end, and the ends of tasks have no
consequence. When it is decided all tasks that are left are told to end, the supervisor takes the
failure that decided the run, if one did, and nothing changes what it returns any more.
-/

namespace Rescan.Supervisor.Trial

variable {plans : List Plan} {stops : List Nat} {graceMs order : Nat} {trial : Trial}

/-! ## At the decision -/

/-- A failure is one of those at a certain time, and no failure means that there are none. -/
def Blames (plans : List Plan) (order : Nat) : Option Failure → Prop
  | some failure => (order, failure) ∈ failures plans
  | none => ∀ failure, (order, failure) ∉ failures plans

/-- A run at its decision: the tasks that are left are still to be told. -/
structure Deciding (plans : List Plan) (graceMs order : Nat) (trial : Trial) : Prop where
  coherent : trial.Coherent
  phase_eq : trial.supervisor.phase = .stopping order
  grace_eq : trial.supervisor.graceMs = graceMs
  blames : Blames plans order trial.supervisor.failure
  mem_actors : ∀ actor, actor ∈ trial.actors ↔
    actor ∈ actorsOf plans ∧ actor.escapes plans order = false
  silent : ∀ entry ∈ trial.log, entry.happening ≠ .cancelled

/-- A run after its decision. -/
structure Decided (plans : List Plan) (graceMs order : Nat) (trial : Trial) : Prop where
  blames : Blames plans order trial.supervisor.failure
  cancelled_iff : ∀ entry : Entry, entry.happening = .cancelled → (entry ∈ trial.log ↔
    entry.time = order ∧ ∃ actor ∈ actorsOf plans, actor.escapes plans order = false ∧
      actor.plan.reaction.isSome ∧ actor.plan.name = entry.name)
  due : trial.Over (returnTime plans graceMs order) ∨
    trial.Winding order (returnTime plans graceMs order)

theorem Decided.isCancelled (hdecided : trial.Decided plans graceMs order) :
    trial.supervisor.isCancelled = true := by
  rcases hdecided.due with hover | hwinding
  · simp [Supervisor.isCancelled, hover.phase_eq]
  · simp [Supervisor.isCancelled, hwinding.phase_eq]

theorem Decided.steps (hdecided : trial.Decided plans graceMs order) {count : Nat}
    (hcount : trial.actors.length < count) :
    trial.Agrees (steps count trial) ∧
      (steps count trial).Over (returnTime plans graceMs order) := by
  rcases hdecided.due with hover | hwinding
  · rw [steps_of_event?_eq_none hover.event?_eq_none]
    exact ⟨⟨rfl, fun _ _ => Iff.rfl⟩, hover⟩
  · exact hwinding.steps hcount

theorem Deciding.winding (hdeciding : trial.Deciding plans graceMs order)
    (hleft : trial.actors ≠ []) :
    (trial.cancelAll order).Winding order (returnTime plans graceMs order) := by
  have hgrace := hdeciding.grace_eq
  rw [cancelAll_eq]
  refine ⟨⟨?_, ?_⟩, hdeciding.phase_eq, by simpa using hleft, hgrace ▸ returnTime_le _, ?_, ?_⟩
  · simpa [List.pairwise_map] using hdeciding.coherent.sorted
  · simp [hdeciding.coherent.live_eq, Function.comp_def]
  · simp only [hgrace]
    refine (returnTime_enough graceMs).imp_right fun hall actor hactor => ?_
    obtain ⟨before, hbefore, rfl⟩ := List.mem_map.mp hactor
    obtain ⟨hmem, hreached⟩ := (hdeciding.mem_actors before).mp hbefore
    exact hall before hmem hreached
  · obtain ⟨actor, hactor⟩ := List.exists_mem_of_ne_nil _ hleft
    obtain ⟨hmem, hreached⟩ := (hdeciding.mem_actors actor).mp hactor
    obtain ⟨other, hother, hreached, hle⟩ := returnTime_needed graceMs hmem hreached
    exact ⟨other.told order,
      List.mem_map_of_mem ((hdeciding.mem_actors other).mpr ⟨hother, hreached⟩), hle⟩

/-- The tasks that are left are told to end. -/
theorem Deciding.cancelAll (hdeciding : trial.Deciding plans graceMs order)
    (hleft : trial.actors ≠ []) : (trial.cancelAll order).Decided plans graceMs order := by
  refine ⟨?_, ?_, .inr (hdeciding.winding hleft)⟩
  · simpa [cancelAll_eq] using hdeciding.blames
  · rintro ⟨time, name, happening⟩ rfl
    simp only [cancelAll_eq, List.mem_append, List.mem_reverse, List.mem_map, List.mem_filter,
      hdeciding.mem_actors]
    constructor
    · rintro (⟨actor, ⟨⟨hmem, hreached⟩, hreaction⟩, heq⟩ | hlog)
      · cases heq
        exact ⟨rfl, actor, hmem, hreached, hreaction, rfl⟩
      · exact absurd rfl (hdeciding.silent _ hlog)
    · rintro ⟨rfl, actor, hmem, hreached, hreaction, rfl⟩
      exact .inl ⟨actor, ⟨⟨hmem, hreached⟩, hreaction⟩, rfl⟩

/-- When no task is left, the supervisor returns at its decision. -/
theorem decided_of_over (hover : trial.Over order)
    (hblames : Blames plans order trial.supervisor.failure)
    (hescapes : ∀ actor ∈ actorsOf plans, actor.escapes plans order = true)
    (hsilent : ∀ entry ∈ trial.log, entry.happening ≠ .cancelled) :
    trial.Decided plans graceMs order := by
  refine ⟨hblames, fun entry hentry => ?_, .inl ?_⟩
  · constructor
    · intro hlog
      exact absurd hentry (hsilent entry hlog)
    · rintro ⟨-, actor, hactor, hreached, -⟩
      simp [hescapes actor hactor] at hreached
  · rwa [returnTime_of_escapes graceMs hescapes]

/-! ## Before the decision -/

/-- A run before its decision. The tasks that have ended have completed, each before all orders
from outside and before the tasks that are left. -/
structure Undecided (plans : List Plan) (stops : List Nat) (graceMs : Nat) (trial : Trial) :
    Prop where
  supervisor_eq : trial.supervisor = { graceMs, live := trial.actors.map (·.number) }
  stops_eq : trial.stops = stops
  left : trial.actors ≠ []
  sublist : trial.actors.Sublist (actorsOf plans)
  ended : ∀ actor ∈ actorsOf plans, actor ∉ trial.actors → ∃ time,
    actor.fate = some (time, .completed) ∧ (∀ stop ∈ stops, time ≤ stop) ∧
      ∀ other ∈ trial.actors, ∀ fate, other.fate = some fate →
        Precedes (actor, time, .completed) (other, fate)
  silent : ∀ entry ∈ trial.log, entry.happening ≠ .cancelled

theorem begin_undecided (hplans : plans ≠ []) :
    (begin plans stops graceMs).Undecided plans stops graceMs where
  supervisor_eq := by
    have hlength : plans.length ≠ 0 := by simpa using hplans
    simp [begin, Supervisor.ofCount, conclude, hlength, numbers_actorsOf]
  stops_eq := rfl
  left := by simpa [begin, actorsOf] using hplans
  sublist := List.Sublist.refl _
  ended actor hactor hended := absurd hactor hended
  silent := by simp [begin]

namespace Undecided

variable (hundecided : trial.Undecided plans stops graceMs)

include hundecided

theorem coherent : trial.Coherent :=
  ⟨(actorsOf_sorted plans).sublist hundecided.sublist, by rw [hundecided.supervisor_eq]⟩

theorem phase_eq : trial.supervisor.phase = .running := by rw [hundecided.supervisor_eq]

theorem failure_eq : trial.supervisor.failure = none := by rw [hundecided.supervisor_eq]

/-- A task that fails has not ended. -/
theorem mem_of_fails {actor : Actor} (hactor : actor ∈ actorsOf plans) {time : Nat}
    {ending : Ending} {failure : Failure} (hfate : actor.fate = some (time, ending))
    (hfails : ending.failure? = some failure) : actor ∈ trial.actors := by
  by_contra hended
  obtain ⟨_, hcompleted, -⟩ := hundecided.ended actor hactor hended
  cases hfate.symm.trans hcompleted
  cases hfails

/-- What precedes all that is left does not come after the decision. -/
theorem le_of_mem_decisions {time : Nat} (hstops : ∀ stop ∈ stops, time ≤ stop)
    (hfates : ∀ actor ∈ trial.actors, ∀ fate, actor.fate = some fate → time ≤ fate.1)
    (hdecision : order ∈ decisions plans stops) : time ≤ order := by
  simp only [decisions, List.mem_append] at hdecision
  rcases hdecision with (hstop | hfailure) | hall
  · exact hstops order hstop
  · obtain ⟨⟨_, failure⟩, hmem, rfl⟩ := List.mem_map.mp hfailure
    obtain ⟨actor, hactor, ending, hfate, hfails⟩ := mem_failures.mp hmem
    exact hfates actor (hundecided.mem_of_fails hactor hfate hfails) _ hfate
  · split at hall
    · obtain ⟨actor, hactor⟩ := List.exists_mem_of_ne_nil _ hundecided.left
      obtain ⟨hplan, hnatural⟩ := mem_actorsOf.mp (hundecided.sublist.subset hactor)
      obtain ⟨hends, -⟩ := of_last?_eq_some (Option.mem_toList.mp hall)
      obtain ⟨last, hle, hlast⟩ := hends _ (List.mem_map_of_mem (List.mem_of_getElem? hplan))
      obtain ⟨fate, hfate, rfl⟩ := Option.map_eq_some_iff.mp hlast
      exact Nat.le_trans (hfates actor hactor fate (hnatural.trans hfate)) hle
    · cases hall

/-! ### Orders from outside -/

theorem outside?_eq : trial.outside? =
    stops.min?.map fun time => (time, { trial.supervisor with phase := .stopping time }) := by
  simp [outside?, hundecided.phase_eq, hundecided.stops_eq, Supervisor.stop]

theorem of_outside?_eq_some {time : Nat} {supervisor : Supervisor}
    (houtside : trial.outside? = some (time, supervisor)) :
    time ∈ stops ∧ (∀ stop ∈ stops, time ≤ stop) ∧
      supervisor = { trial.supervisor with phase := .stopping time } := by
  rw [hundecided.outside?_eq, Option.map_eq_some_iff] at houtside
  obtain ⟨_, hmin, heq⟩ := houtside
  cases heq
  obtain ⟨hmem, hle⟩ := List.min?_eq_some_iff.mp hmin
  exact ⟨hmem, hle, rfl⟩

theorem le_of_inside {time : Nat}
    (hinside : ∀ other supervisor, trial.outside? = some (other, supervisor) → time ≤ other)
    {stop : Nat} (hstop : stop ∈ stops) : time ≤ stop := by
  cases hmin : stops.min? with
  | none => simp [List.min?_eq_none_iff.mp hmin] at hstop
  | some first =>
      have hle := hinside first _ (by rw [hundecided.outside?_eq, hmin]; rfl)
      exact Nat.le_trans hle ((List.min?_eq_some_iff.mp hmin).2 stop hstop)

/-- An order from outside that precedes the ends of all tasks that are left decides the run. -/
theorem decided_of_stop (hstop : order ∈ stops)
    (hbefore : ∀ actor ∈ trial.actors, ∀ fate, actor.fate = some fate → order < fate.1) :
    (trial.follow { trial.supervisor with phase := .stopping order } order).Decided plans graceMs
      order := by
  have hnone : ∀ failure, (order, failure) ∉ failures plans := by
    intro failure hfailure
    obtain ⟨actor, hactor, ending, hfate, hfails⟩ := mem_failures.mp hfailure
    exact Nat.lt_irrefl _
      (hbefore actor (hundecided.mem_of_fails hactor hfate hfails) _ hfate)
  have hfollow : trial.follow { trial.supervisor with phase := .stopping order } order =
      ({ trial with supervisor := { trial.supervisor with phase := .stopping order } } :
        Trial).cancelAll order := by
    simp [follow, hasReturned, isCancelled, hundecided.phase_eq]
  rw [hfollow]
  have hblames : Blames plans order trial.supervisor.failure := by
    rw [hundecided.failure_eq]
    exact hnone
  refine Deciding.cancelAll ⟨⟨hundecided.coherent.sorted, hundecided.coherent.live_eq⟩, rfl,
    by simp [hundecided.supervisor_eq], hblames, fun actor => ⟨fun hactor => ?_, ?_⟩,
    hundecided.silent⟩ hundecided.left
  · refine ⟨hundecided.sublist.subset hactor, Bool.eq_false_iff.mpr fun hescapes => ?_⟩
    obtain ⟨fate, hfate, hle⟩ := Actor.le_of_escapes hescapes
    exact Nat.not_lt_of_le hle (hbefore actor hactor fate hfate)
  · rintro ⟨hactor, hreached⟩
    by_contra hended
    -- A task that ended at the time of the order escapes it too, since no task fails then.
    obtain ⟨time, hfate, hstops, -⟩ := hundecided.ended actor hactor hended
    refine Bool.eq_false_iff.mp hreached (Actor.escapes_iff.mpr ⟨_, hfate, ?_⟩)
    have := hstops order hstop
    have := number_lt hactor
    rw [firstFailing_of_forall hnone]
    simp only
    omega

/-! ### Ends of tasks -/

theorem silent_settle (actor : Actor) (time : Nat) :
    ∀ entry ∈ (trial.settle actor time).log, entry.happening ≠ .cancelled := by
  rintro entry hentry hcancelled
  exact hundecided.silent entry
    ((mem_log_settle (by simp [hcancelled])).mp hentry) hcancelled

section Ends

variable {actor : Actor} (hactor : actor ∈ trial.actors) {time : Nat} {ending : Ending}
  (hfate : actor.fate = some (time, ending))
  (hfirst : ∀ other ∈ trial.actors, ∀ fate, other.fate = some fate →
    Precedes (actor, time, ending) (other, fate))

include hactor hfate hfirst

/-- When a task fails, exactly the tasks that are left do not escape. -/
theorem mem_rest_iff_of_fails {failure : Failure} (hfails : ending.failure? = some failure)
    (other : Actor) : other ∈ trial.rest actor ↔
      other ∈ actorsOf plans ∧ other.escapes plans time = false := by
  have hactor' := hundecided.sublist.subset hactor
  -- Tasks that end at the same time are taken by number, and the first to fail tells the rest.
  have hnumber : firstFailing plans time = actor.number := by
    refine firstFailing_of_first hactor' hfate hfails ?_
    intro other hother ending failure hfate' hfails'
    have := hfirst other (hundecided.mem_of_fails hother hfate' hfails') _ hfate'
    simp only [Precedes] at this
    omega
  rw [hundecided.coherent.mem_rest hactor, ← Bool.not_eq_true, Actor.escapes_iff, hnumber]
  constructor
  · rintro ⟨hother, hne⟩
    refine ⟨hundecided.sublist.subset hother, ?_⟩
    rintro ⟨fate, hfate', hle⟩
    have hprecedes := hfirst other hother fate hfate'
    simp only [Precedes] at hprecedes
    exact hne (List.inj_on_of_nodup_map hundecided.coherent.nodup_numbers hother hactor (by omega))
  · rintro ⟨hother, hreached⟩
    by_cases hmem : other ∈ trial.actors
    · refine ⟨hmem, ?_⟩
      rintro rfl
      exact hreached ⟨_, hfate, .inr ⟨rfl, Nat.le_refl _⟩⟩
    · obtain ⟨moment, hmoment, -, hprecedes⟩ := hundecided.ended other hother hmem
      exact absurd ⟨_, hmoment, hprecedes actor hactor _ hfate⟩ hreached

theorem decided_of_fails {failure : Failure} (hfails : ending.failure? = some failure) :
    (trial.finish actor time ending).Decided plans graceMs time := by
  have hrest := hundecided.mem_rest_iff_of_fails hactor hfate hfirst hfails
  have hsilent := hundecided.silent_settle actor time
  have hblames : Blames plans time (some failure) :=
    mem_failures.mpr ⟨actor, hundecided.sublist.subset hactor, ending, hfate, hfails⟩
  by_cases hnil : trial.rest actor = []
  · rw [finish_of_last hundecided.coherent (by simp [hundecided.phase_eq]) hnil]
    refine decided_of_over ⟨rfl, hnil⟩ ?_ (fun other hother => ?_) hsilent
    · simpa [hundecided.phase_eq, hfails] using hblames
    · by_contra hreached
      have := (hrest other).mpr ⟨hother, Bool.eq_false_iff.mpr hreached⟩
      simp [hnil] at this
  · rw [finish_of_fails hundecided.coherent hundecided.phase_eq hfails hnil]
    exact Deciding.cancelAll ⟨⟨(hundecided.coherent.settle time).sorted, rfl⟩, rfl,
      by simp [survivors, hundecided.supervisor_eq], hblames, hrest, hsilent⟩ hnil

/-- When a task completes and is not the last one, nothing is decided. -/
theorem undecided_of_completed (hcompleted : ending = .completed)
    (hstops : ∀ stop ∈ stops, time ≤ stop) (hrest : trial.rest actor ≠ []) :
    (trial.finish actor time ending).Undecided plans stops graceMs := by
  have hcoherent := hundecided.coherent
  rw [finish_of_quiet hcoherent (by simp [hundecided.phase_eq])
    (by simp [hcompleted, Ending.failure?]) hrest]
  refine ⟨by simp [settle, survivors, hundecided.supervisor_eq], hundecided.stops_eq, hrest,
    List.filter_sublist.trans hundecided.sublist, fun other hother hended => ?_,
    hundecided.silent_settle actor time⟩
  have hleft : ∀ third ∈ trial.rest actor, third ∈ trial.actors := fun third hthird =>
    ((hcoherent.mem_rest hactor).mp hthird).1
  by_cases hmem : other ∈ trial.actors
  · obtain rfl : other = actor := by
      by_contra hne
      exact hended ((hcoherent.mem_rest hactor).mpr ⟨hmem, hne⟩)
    exact ⟨time, hcompleted ▸ hfate, hstops, fun third hthird fate hfate => hcompleted ▸
      hfirst third (hleft third hthird) fate hfate⟩
  · obtain ⟨moment, hmoment, hbefore, hprecedes⟩ := hundecided.ended other hother hmem
    exact ⟨moment, hmoment, hbefore, fun third hthird => hprecedes third (hleft third hthird)⟩

omit hfirst in
/-- When the last task completes, no task has failed and the end of all tasks decides the run. -/
theorem decided_of_last (hcompleted : ending = .completed) (hrest : trial.rest actor = []) :
    time ∈ decisions plans stops ∧ (trial.finish actor time ending).Decided plans graceMs time := by
  have hcoherent := hundecided.coherent
  have hlast : ∀ other ∈ actorsOf plans, ∃ moment ≤ time,
      other.fate = some (moment, .completed) := by
    intro other hother
    by_cases hmem : other ∈ trial.actors
    · obtain rfl : other = actor := by
        by_contra hne
        have := (hcoherent.mem_rest hactor).mpr ⟨hmem, hne⟩
        simp [hrest] at this
      exact ⟨time, Nat.le_refl _, hcompleted ▸ hfate⟩
    · obtain ⟨moment, hmoment, -, hprecedes⟩ := hundecided.ended other hother hmem
      have := hprecedes actor hactor _ hfate
      simp only [Precedes] at this
      exact ⟨moment, by omega, hmoment⟩
  have hnone : ∀ time failure, (time, failure) ∉ failures plans := by
    intro time failure hfailure
    obtain ⟨other, hother, ending, hfate, hfails⟩ := mem_failures.mp hfailure
    obtain ⟨_, -, hcompleted⟩ := hlast other hother
    cases hfate.symm.trans hcompleted
    cases hfails
  constructor
  · have hnil : failures plans = [] := List.eq_nil_iff_forall_not_mem.mpr fun _ => hnone _ _
    have hends : last? (plans.map fun plan => plan.natural.map Prod.fst) = some time := by
      rw [← map_fate_actorsOf]
      refine last?_eq_some (fun moment hmoment => ?_) ?_
      · obtain ⟨other, hother, rfl⟩ := List.mem_map.mp hmoment
        obtain ⟨moment, hle, hmoment⟩ := hlast other hother
        exact ⟨moment, hle, by rw [hmoment]; rfl⟩
      · exact List.mem_map.mpr ⟨actor, hundecided.sublist.subset hactor, by rw [hfate]; rfl⟩
    simp [decisions, hnil, hends]
  · rw [finish_of_last hcoherent (by simp [hundecided.phase_eq]) hrest]
    refine decided_of_over ⟨rfl, hrest⟩ ?_ (fun other hother => ?_)
      (hundecided.silent_settle actor time)
    · have hblames : Blames plans time none := hnone time
      simpa [hundecided.failure_eq, hcompleted, Ending.failure?] using hblames
    · obtain ⟨moment, hle, hmoment⟩ := hlast other hother
      have := number_lt hother
      refine Actor.escapes_iff.mpr ⟨_, hmoment, ?_⟩
      rw [firstFailing_of_forall (hnone time)]
      simp only
      omega

end Ends

/-- The next event comes after none of those that can decide the run. It is one of them and
decides the run, or it has no consequence. -/
theorem step : trial.event? = none ∧ decisions plans stops = [] ∨
    ∃ time next, trial.event? = some (time, next) ∧
      (∀ other ∈ decisions plans stops, time ≤ other) ∧
      (next.Undecided plans stops graceMs ∧ next.actors.length < trial.actors.length ∨
        time ∈ decisions plans stops ∧ next.Decided plans graceMs time) := by
  cases hevent : trial.event? with
  | none =>
      obtain ⟨hnever, houtside⟩ := of_event?_eq_none hevent
      refine .inl ⟨rfl, List.eq_nil_iff_forall_not_mem.mpr fun order hdecision => ?_⟩
      have : order + 1 ≤ order := hundecided.le_of_mem_decisions
        (fun stop hstop => hundecided.le_of_inside (by simp [houtside]) hstop)
        (fun actor hactor fate hfate => by cases hfate.symm.trans (hnever actor hactor)) hdecision
      omega
  | some event =>
      obtain ⟨time, next⟩ := event
      refine .inr ⟨time, next, rfl, ?_⟩
      cases happens_of_event? hevent with
      | @ends actor _ ending hends hinside =>
          obtain ⟨hactor, hfate⟩ := mem_of_first?_eq_some hends
          have hfirst := hundecided.coherent.precedes_of_first? hends
          have hstops : ∀ stop ∈ stops, time ≤ stop :=
            fun stop => hundecided.le_of_inside hinside
          have hfates : ∀ other ∈ trial.actors, ∀ fate, other.fate = some fate →
              time ≤ fate.1 := by
            intro other hother fate hfate
            have := hfirst other hother fate hfate
            simp only [Precedes] at this
            omega
          refine ⟨fun other => hundecided.le_of_mem_decisions hstops hfates, ?_⟩
          cases hfails : ending.failure? with
          | some failure =>
              exact .inr ⟨mem_decisions_of_failure (mem_failures.mpr
                ⟨actor, hundecided.sublist.subset hactor, ending, hfate, hfails⟩),
                hundecided.decided_of_fails hactor hfate hfirst hfails⟩
          | none =>
              have hcompleted := Ending.eq_completed hfails
              by_cases hrest : trial.rest actor = []
              · exact .inr (hundecided.decided_of_last hactor hfate hcompleted hrest)
              · have hnext := hundecided.undecided_of_completed hactor hfate hfirst hcompleted
                  hstops hrest
                refine .inl ⟨hnext, ?_⟩
                rw [finish_of_quiet hundecided.coherent (by simp [hundecided.phase_eq])
                  (fun _ => hfails) hrest]
                exact length_rest hactor
      | outside houtside hbefore =>
          obtain ⟨hstop, hstops, rfl⟩ := hundecided.of_outside?_eq_some houtside
          have hbefore := hundecided.coherent.lt_of_before hbefore
          refine ⟨fun other => hundecided.le_of_mem_decisions hstops fun actor hactor fate hfate =>
            Nat.le_of_lt (hbefore actor hactor fate hfate), ?_⟩
          exact .inr ⟨mem_decisions_of_stop hstop, hundecided.decided_of_stop hstop hbefore⟩

section Earliest

variable (hdecision : order ∈ decisions plans stops)
  (hearliest : ∀ other ∈ decisions plans stops, order ≤ other)

include hdecision hearliest

/-- Up to the earliest decision no event has a consequence, and this one decides the run. -/
theorem step_earliest : ∃ time next, trial.event? = some (time, next) ∧
    (time ≤ order ∧ next.Undecided plans stops graceMs ∧
        next.actors.length < trial.actors.length ∨
      time = order ∧ next.Decided plans graceMs order) := by
  rcases hundecided.step with ⟨-, hnil⟩ | ⟨time, next, hevent, hle, hnext | ⟨hmem, hdecided⟩⟩
  · simp [hnil] at hdecision
  · exact ⟨time, next, hevent, .inl ⟨hle order hdecision, hnext⟩⟩
  · obtain rfl : time = order := Nat.le_antisymm (hle order hdecision) (hearliest time hmem)
    exact ⟨time, next, hevent, .inr ⟨rfl, hdecided⟩⟩

theorem pass {moment : Nat} (hbefore : moment < order) (count : Nat) :
    (Trial.pass moment count trial).Undecided plans stops graceMs := by
  induction count generalizing trial with
  | zero => exact hundecided
  | succ count ih =>
      obtain ⟨time, next, hevent, ⟨-, hnext, -⟩ | ⟨rfl, -⟩⟩ :=
        hundecided.step_earliest hdecision hearliest
      · simp only [Trial.pass, hevent]
        split
        · exact ih hnext
        · exact hundecided
      · simpa only [Trial.pass, hevent, if_neg (Nat.not_le_of_lt hbefore)] using hundecided

/-- From the decision on all tasks have been told to end. -/
theorem isCancelled_pass {moment : Nat} (hafter : order ≤ moment) {count : Nat}
    (hcount : trial.actors.length < count) :
    (Trial.pass moment count trial).supervisor.isCancelled = true := by
  induction count generalizing trial with
  | zero => exact absurd hcount (Nat.not_lt_zero _)
  | succ count ih =>
      obtain ⟨time, next, hevent, ⟨hle, hnext, hlt⟩ | ⟨rfl, hdecided⟩⟩ :=
        hundecided.step_earliest hdecision hearliest
      · simp only [Trial.pass, hevent, if_pos (Nat.le_trans hle hafter)]
        exact ih hnext (by omega)
      · simp only [Trial.pass, hevent, if_pos hafter]
        exact Trial.isCancelled_pass moment count hdecided.isCancelled

/-- With enough steps the run is decided and the supervisor returns. -/
theorem steps {count : Nat} (hcount : trial.actors.length + 2 ≤ count) :
    ∃ decided : Trial, decided.Decided plans graceMs order ∧
      decided.Agrees (Trial.steps count trial) ∧
      (Trial.steps count trial).Over (returnTime plans graceMs order) := by
  induction count generalizing trial with
  | zero => omega
  | succ count ih =>
      obtain ⟨time, next, hevent, ⟨-, hnext, hlt⟩ | ⟨-, hdecided⟩⟩ :=
        hundecided.step_earliest hdecision hearliest
      · rw [Trial.steps, step_of_event?_eq_some hevent]
        exact ih hnext (by omega)
      · -- What is left of the steps is enough for the tasks that were told to end.
        have hlength := (progress_of_event? hevent).1
        rw [Trial.steps, step_of_event?_eq_some hevent]
        exact ⟨next, hdecided, hdecided.steps (by omega)⟩

end Earliest

end Undecided

/-! ## Whole runs -/

/-- Without tasks a run is decided at its beginning. -/
theorem begin_decided (stops : List Nat) (graceMs : Nat) :
    (begin [] stops graceMs).Decided [] graceMs 0 :=
  decided_of_over ⟨rfl, rfl⟩ (fun _ hfailure => by cases hfailure) (fun _ hactor => by cases hactor)
    (fun _ hentry => by cases hentry)

theorem zero_mem_decisions (stops : List Nat) : 0 ∈ decisions [] stops := by
  simp [decisions, failures, last?]

section Earliest

variable (hdecision : order ∈ decisions plans stops)
  (hearliest : ∀ other ∈ decisions plans stops, order ≤ other)

include hearliest

theorem order_eq_zero (hplans : plans = []) : order = 0 :=
  Nat.le_zero.mp (hearliest 0 (hplans ▸ zero_mem_decisions stops))

include hdecision

theorem isCancelled_atMoment (graceMs moment : Nat) :
    (atMoment plans stops graceMs moment).supervisor.isCancelled = decide (order ≤ moment) := by
  by_cases hplans : plans = []
  · obtain rfl := order_eq_zero hearliest hplans
    subst hplans
    rw [decide_eq_true (Nat.zero_le moment)]
    exact isCancelled_pass moment _ (begin_decided stops graceMs).isCancelled
  · have hundecided : (begin plans stops graceMs).Undecided plans stops graceMs :=
      begin_undecided hplans
    by_cases hle : order ≤ moment
    · rw [decide_eq_true hle]
      refine hundecided.isCancelled_pass hdecision hearliest hle ?_
      simp [begin, actorsOf]
    · rw [decide_eq_false hle]
      have := hundecided.pass hdecision hearliest (Nat.lt_of_not_le hle) (plans.length + 2)
      simp [atMoment, Supervisor.isCancelled, this.phase_eq]

theorem run_decided (graceMs : Nat) : ∃ decided : Trial, decided.Decided plans graceMs order ∧
    decided.Agrees (run plans stops graceMs) ∧
    (run plans stops graceMs).Over (returnTime plans graceMs order) := by
  by_cases hplans : plans = []
  · obtain rfl := order_eq_zero hearliest hplans
    subst hplans
    have hdecided := begin_decided stops graceMs
    exact ⟨_, hdecided, hdecided.steps (by simp [begin, actorsOf])⟩
  · exact (begin_undecided hplans).steps hdecision hearliest (by simp [begin, actorsOf])

end Earliest

/-- At the time of a decision that nothing else shares there is one failure at most. -/
theorem failure_unique (hone : (decisions plans stops).count order = 1) {failure other : Failure}
    (hfailure : (order, failure) ∈ failures plans) (hother : (order, other) ∈ failures plans) :
    failure = other := by
  obtain ⟨before, after, hsplit⟩ := List.append_of_mem hfailure
  by_contra hne
  have hmem : (order, other) ∈ before ++ after := by
    rw [hsplit] at hother
    simpa [Ne.symm hne] using hother
  -- The other failure counts as a second decision at this time.
  have hagain : 0 < ((before ++ after).map Prod.fst).count order :=
    List.count_pos_iff.mpr (List.mem_map.mpr ⟨_, hmem, rfl⟩)
  simp only [List.map_append, List.count_append] at hagain
  simp only [decisions, hsplit, List.map_append, List.map_cons, List.count_append,
    List.count_cons_self] at hone
  omega

/-- Take the earliest of the orders from outside, of the failures of tasks and, if none fails, of
the end of all tasks, and let nothing else of these happen at the same time. Up to then no task
has been told to end, from then on all have. The tasks that have not ended by then see the order
at that time. The supervisor returns the failure of a task just when it happens at that time. It
returns when the last of the tasks has ended, unless the grace period is over before. Nothing is
left to happen after the run; what has happened up to a moment is the beginning of it, and all
that is left comes later. -/
theorem first_decision_settles_run (plans : List Plan) (stops : List Nat) (graceMs order : Nat)
    (hdecision : order ∈ decisions plans stops)
    (hearliest : ∀ other ∈ decisions plans stops, order ≤ other)
    (hone : (decisions plans stops).count order = 1) :
    (∀ moment, (atMoment plans stops graceMs moment).supervisor.isCancelled =
      decide (order ≤ moment)) ∧
    (∀ entry : Entry, entry.happening = .cancelled →
      (entry ∈ (run plans stops graceMs).log ↔ entry.time = order ∧
        ∃ actor ∈ actorsOf plans, actor.escapes plans order = false ∧
          actor.plan.reaction.isSome ∧ actor.plan.name = entry.name)) ∧
    (∀ failure, (run plans stops graceMs).supervisor.result = .error failure ↔
      (order, failure) ∈ failures plans) ∧
    (run plans stops graceMs).elapsed? = some (returnTime plans graceMs order) ∧
    (run plans stops graceMs).event? = none ∧
    ∀ moment,
      (∃ passed ≤ plans.length + 2,
        atMoment plans stops graceMs moment = steps passed (begin plans stops graceMs)) ∧
      ∀ time next, (atMoment plans stops graceMs moment).event? = some (time, next) →
        moment < time := by
  obtain ⟨decided, hdecided, hagrees, hover⟩ := run_decided hdecision hearliest graceMs
  refine ⟨isCancelled_atMoment hdecision hearliest graceMs, fun entry hentry => ?_,
    fun failure => ?_, ?_, event?_run_eq_none plans stops graceMs, fun moment =>
    ⟨exists_atMoment_eq_steps plans stops graceMs moment, fun _ _ => lt_of_event?_atMoment⟩⟩
  · exact (hagrees.cancelled_iff entry hentry).trans (hdecided.cancelled_iff entry hentry)
  · have hblames := hdecided.blames
    rw [result, hagrees.failure_eq]
    cases hfailure : decided.supervisor.failure with
    | none =>
        rw [hfailure] at hblames
        exact ⟨fun hok => (by cases hok), fun hmem => absurd hmem (hblames failure)⟩
    | some first =>
        rw [hfailure] at hblames
        constructor
        · intro herror
          cases herror
          exact hblames
        · intro hmem
          rw [failure_unique hone hmem hblames]
  · simp [elapsed?, hover.phase_eq]

/-- A task that completes early, one that fails, one that reacts slowly and one that fails while
it reacts. -/
def mixed : List Plan :=
  [{ name := "hook", natural := some (5, .completed) },
    { name := "server", natural := some (20, .failed (.plain "server failed")) },
    { name := "watch", reaction := some (300, .completed) },
    { name := "monitor", natural := some (400, .panicked), reaction := some (10, .panicked) }]

/-- The failure of the server stops the run before the signal, and the slow task ends in time. -/
theorem first_decision_settles_run_mixed :
    (atMoment mixed [50] 1000 19).supervisor.isCancelled = false ∧
      (atMoment mixed [50] 1000 20).supervisor.isCancelled = true ∧
      (run mixed [50] 1000).supervisor.result = .error (.plain "server failed") ∧
      (run mixed [50] 1000).elapsed? = some 320 := by
  obtain ⟨hcancelled, -, hresult, helapsed, -⟩ :=
    first_decision_settles_run mixed [50] 1000 20 (by decide) (by decide) (by decide)
  have hreturn : returnTime mixed 1000 20 = 320 := by decide
  exact ⟨hcancelled 19, hcancelled 20, (hresult _).mpr (by decide), hreturn ▸ helapsed⟩

end Rescan.Supervisor.Trial
