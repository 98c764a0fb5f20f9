import Rescan.Supervisor.Trial

/-! # The ends of tasks

What comes first of an order from outside, the failure of a task and the end of all tasks decides
a run of the supervisor. A task that has not ended by then ends as it reacts to the order to end.
The last of these ends and the grace period tell when the supervisor returns.
-/

namespace Rescan.Supervisor

/-- When and with what failure a task fails by itself, if it does. -/
def Plan.failure? (plan : Plan) : Option (Nat × Failure) :=
  plan.natural.bind fun (time, ending) => ending.failure?.map (time, ·)

/-- The failures to which tasks come by themselves, with their times. -/
def failures (plans : List Plan) : List (Nat × Failure) := plans.filterMap Plan.failure?

/-- The last of some moments, if all of them come. -/
def last? (moments : List (Option Nat)) : Option Nat :=
  moments.foldr (fun moment last => moment.bind fun time => last.map (max time)) (some 0)

/-- The times of all that can decide a run: orders from outside, failures and, when no task
fails, the moment at which all tasks have ended by themselves. -/
def decisions (plans : List Plan) (stops : List Nat) : List Nat :=
  stops ++ (failures plans).map Prod.fst ++
    if failures plans = [] then (last? (plans.map fun plan => plan.natural.map Prod.fst)).toList
    else []

/-- The number of the first task that fails by itself at a certain time, or the number of all
tasks. -/
def firstFailing (plans : List Plan) (time : Nat) : Nat :=
  plans.findIdx fun plan => plan.failure?.any (·.1 == time)

/-- Whether a task has ended by itself when an order to end comes at a certain time. The tasks
that end at this very time have, up to the first that fails. -/
def Actor.escapes (plans : List Plan) (order : Nat) (actor : Actor) : Bool :=
  actor.fate.any fun (time, _) =>
    time < order || (time == order && actor.number ≤ firstFailing plans order)

/-- When a task ends that is told to end at a certain time, unless it has ended by then. -/
def Actor.endTold (plans : List Plan) (order : Nat) (actor : Actor) : Option Nat :=
  (if actor.escapes plans order then actor.fate else (actor.told order).fate).map Prod.fst

/-- When the supervisor returns if the tasks are told to end at a certain time. -/
def returnTime (plans : List Plan) (graceMs order : Nat) : Nat :=
  match last? ((actorsOf plans).map (·.endTold plans order)) with
  | some last => min (order + graceMs) (max order last)
  | none => order + graceMs

theorem mem_decisions_of_stop {plans : List Plan} {stops : List Nat} {time : Nat}
    (hstop : time ∈ stops) : time ∈ decisions plans stops :=
  List.mem_append_left _ (List.mem_append_left _ hstop)

theorem mem_decisions_of_failure {plans : List Plan} {stops : List Nat} {time : Nat}
    {failure : Failure} (hfailure : (time, failure) ∈ failures plans) :
    time ∈ decisions plans stops :=
  List.mem_append_left _ (List.mem_append_right _ (List.mem_map.mpr ⟨_, hfailure, rfl⟩))

/-! ## The last of some moments -/

theorem last?_cons (moment : Option Nat) (moments : List (Option Nat)) :
    last? (moment :: moments) = moment.bind fun time => (last? moments).map (max time) := rfl

theorem last?_eq_none_iff {moments : List (Option Nat)} :
    last? moments = none ↔ none ∈ moments := by
  induction moments with
  | nil => simp [last?]
  | cons moment moments ih =>
      rw [last?_cons, List.mem_cons, ← ih]
      cases moment <;> simp

theorem of_last?_eq_some {moments : List (Option Nat)} {last : Nat}
    (hlast : last? moments = some last) :
    (∀ moment ∈ moments, ∃ time ≤ last, moment = some time) ∧ (last = 0 ∨ some last ∈ moments) := by
  induction moments generalizing last with
  | nil => exact ⟨by simp, .inl (Option.some.inj hlast).symm⟩
  | cons moment moments ih =>
      rw [last?_cons, Option.bind_eq_some_iff] at hlast
      obtain ⟨time, rfl, hrest⟩ := hlast
      obtain ⟨rest, hsome, rfl⟩ := Option.map_eq_some_iff.mp hrest
      obtain ⟨hall, hmem⟩ := ih hsome
      refine ⟨?_, ?_⟩
      · rintro moment (_ | ⟨_, hmoment⟩)
        · exact ⟨time, Nat.le_max_left _ _, rfl⟩
        · obtain ⟨other, hle, rfl⟩ := hall moment hmoment
          exact ⟨other, Nat.le_trans hle (Nat.le_max_right _ _), rfl⟩
      · rcases Nat.le_total time rest with hle | hle
        · rw [Nat.max_eq_right hle]
          exact hmem.imp_right (List.mem_cons_of_mem _)
        · rw [Nat.max_eq_left hle]
          exact .inr List.mem_cons_self

theorem last?_eq_some {moments : List (Option Nat)} {last : Nat}
    (hall : ∀ moment ∈ moments, ∃ time ≤ last, moment = some time)
    (hmem : some last ∈ moments) : last? moments = some last := by
  cases hlast : last? moments with
  | none =>
      obtain ⟨time, -, hnone⟩ := hall none (last?_eq_none_iff.mp hlast)
      cases hnone
  | some other =>
      obtain ⟨hother, hreached⟩ := of_last?_eq_some hlast
      have hle : last ≤ other := by
        obtain ⟨time, hle, htime⟩ := hother _ hmem
        cases htime
        exact hle
      have hge : other ≤ last := by
        rcases hreached with rfl | hreached
        · exact Nat.zero_le _
        · obtain ⟨time, hle, htime⟩ := hall _ hreached
          cases htime
          exact hle
      rw [Nat.le_antisymm hge hle]

/-! ## The tasks of a run -/

theorem Ending.eq_completed {ending : Ending} (hnone : ending.failure? = none) :
    ending = .completed := by
  cases ending with
  | completed => rfl
  | failed => cases hnone
  | panicked => cases hnone

theorem mem_actorsOf {plans : List Plan} {actor : Actor} :
    actor ∈ actorsOf plans ↔
      plans[actor.number]? = some actor.plan ∧ actor.fate = actor.plan.natural := by
  simp only [actorsOf, List.mem_map, Prod.exists, List.mk_mem_zipIdx_iff_getElem?]
  constructor
  · rintro ⟨plan, number, hplan, rfl⟩
    exact ⟨hplan, rfl⟩
  · rintro ⟨hplan, hfate⟩
    exact ⟨actor.plan, actor.number, hplan, by rw [← hfate]⟩

theorem number_lt {plans : List Plan} {actor : Actor} (hactor : actor ∈ actorsOf plans) :
    actor.number < plans.length :=
  (List.getElem?_eq_some_iff.mp (mem_actorsOf.mp hactor).1).1

theorem numbers_actorsOf (plans : List Plan) :
    (actorsOf plans).map (·.number) = List.range plans.length := by
  rw [actorsOf, List.map_map, List.range_eq_range']
  exact List.zipIdx_map_snd 0 plans

theorem actorsOf_sorted (plans : List Plan) :
    (actorsOf plans).Pairwise (·.number < ·.number) := by
  rw [← List.pairwise_map (R := (· < ·)), numbers_actorsOf]
  exact List.pairwise_lt_range

theorem map_fate_actorsOf (plans : List Plan) :
    (actorsOf plans).map (·.fate.map Prod.fst) =
      plans.map fun plan => plan.natural.map Prod.fst := by
  have hplans : plans.zipIdx.map Prod.fst = plans := List.zipIdx_map_fst 0 plans
  calc (actorsOf plans).map (·.fate.map Prod.fst)
      = (plans.zipIdx.map Prod.fst).map fun plan => plan.natural.map Prod.fst := by
        rw [actorsOf, List.map_map, List.map_map]
        rfl
    _ = _ := by rw [hplans]

theorem Plan.failure?_eq_some_iff {plan : Plan} {time : Nat} {failure : Failure} :
    plan.failure? = some (time, failure) ↔
      ∃ ending, plan.natural = some (time, ending) ∧ ending.failure? = some failure := by
  simp only [Plan.failure?, Option.bind_eq_some_iff, Option.map_eq_some_iff, Prod.mk.injEq,
    Prod.exists]
  constructor
  · rintro ⟨time, ending, hnatural, _, hending, rfl, rfl⟩
    exact ⟨ending, hnatural, hending⟩
  · rintro ⟨ending, hnatural, hending⟩
    exact ⟨time, ending, hnatural, failure, hending, rfl, rfl⟩

theorem mem_failures {plans : List Plan} {time : Nat} {failure : Failure} :
    (time, failure) ∈ failures plans ↔
      ∃ actor ∈ actorsOf plans, ∃ ending,
        actor.fate = some (time, ending) ∧ ending.failure? = some failure := by
  rw [failures, List.mem_filterMap]
  constructor
  · rintro ⟨plan, hplan, hfails⟩
    obtain ⟨number, hnumber⟩ := List.getElem?_of_mem hplan
    exact ⟨⟨number, plan, plan.natural⟩, mem_actorsOf.mpr ⟨hnumber, rfl⟩,
      Plan.failure?_eq_some_iff.mp hfails⟩
  · rintro ⟨actor, hactor, hending⟩
    obtain ⟨hplan, hfate⟩ := mem_actorsOf.mp hactor
    exact ⟨actor.plan, List.mem_of_getElem? hplan, Plan.failure?_eq_some_iff.mpr (hfate ▸ hending)⟩

variable {plans : List Plan} {order : Nat} {actor : Actor}

theorem Actor.escapes_iff :
    actor.escapes plans order = true ↔ ∃ fate, actor.fate = some fate ∧
      (fate.1 < order ∨ fate.1 = order ∧ actor.number ≤ firstFailing plans order) := by
  simp [escapes, Option.any_eq_true]

theorem Actor.le_of_escapes (hescapes : actor.escapes plans order = true) :
    ∃ fate, actor.fate = some fate ∧ fate.1 ≤ order := by
  obtain ⟨fate, hfate, hle⟩ := escapes_iff.mp hescapes
  exact ⟨fate, hfate, by omega⟩

@[simp]
theorem Actor.told_number (actor : Actor) (now : Nat) :
    (actor.told now).number = actor.number := by
  unfold told
  split <;> rfl

/-- A task that is told to end does not end before that. -/
theorem Actor.le_of_told (hreached : actor.escapes plans order = false) {fate : Nat × Ending}
    (hfate : (actor.told order).fate = some fate) : order ≤ fate.1 := by
  unfold told at hfate
  split at hfate
  · cases hfate
    exact Nat.le_add_right _ _
  · refine Decidable.byContradiction fun hlt => ?_
    have : actor.escapes plans order = true :=
      escapes_iff.mpr ⟨fate, hfate, .inl (Nat.lt_of_not_le hlt)⟩
    simp [this] at hreached

theorem Actor.endTold_of_escapes (hescapes : actor.escapes plans order = true) :
    actor.endTold plans order = actor.fate.map Prod.fst := by
  rw [endTold, if_pos hescapes]

theorem Actor.endTold_of_reached (hreached : actor.escapes plans order = false) :
    actor.endTold plans order = (actor.told order).fate.map Prod.fst := by
  rw [endTold, if_neg (by simp [hreached])]

/-! ## The first task that fails -/

theorem any_failure?_iff {plan : Plan} {time : Nat} :
    (plan.failure?.any fun found => found.1 == time) = true ↔
      ∃ failure, plan.failure? = some (time, failure) := by
  simp only [Option.any_eq_true, beq_iff_eq, Prod.exists]
  constructor
  · rintro ⟨_, failure, hfails, rfl⟩
    exact ⟨failure, hfails⟩
  · rintro ⟨failure, hfails⟩
    exact ⟨time, failure, hfails, rfl⟩

theorem firstFailing_of_forall (hnone : ∀ failure, (order, failure) ∉ failures plans) :
    firstFailing plans order = plans.length := by
  refine List.findIdx_eq_length.mpr fun plan hplan => ?_
  rw [Bool.eq_false_iff, ne_eq, any_failure?_iff]
  rintro ⟨failure, hfails⟩
  exact hnone failure (List.mem_filterMap.mpr ⟨plan, hplan, hfails⟩)

theorem firstFailing_of_first {failure : Failure} {ending : Ending}
    (hactor : actor ∈ actorsOf plans) (hfate : actor.fate = some (order, ending))
    (hfails : ending.failure? = some failure)
    (hfirst : ∀ other ∈ actorsOf plans, ∀ ending failure, other.fate = some (order, ending) →
      ending.failure? = some failure → actor.number ≤ other.number) :
    firstFailing plans order = actor.number := by
  obtain ⟨hplan, hnatural⟩ := mem_actorsOf.mp hactor
  obtain ⟨hnumber, hplan⟩ := List.getElem?_eq_some_iff.mp hplan
  refine (List.findIdx_eq hnumber).mpr ⟨?_, fun number hlt => ?_⟩
  · rw [any_failure?_iff]
    exact ⟨failure, Plan.failure?_eq_some_iff.mpr
      ⟨ending, by rw [hplan, ← hnatural, hfate], hfails⟩⟩
  · rw [Bool.eq_false_iff, ne_eq, any_failure?_iff]
    rintro ⟨failure, hother⟩
    obtain ⟨ending, hnatural, hending⟩ := Plan.failure?_eq_some_iff.mp hother
    have := hfirst ⟨number, plans[number], plans[number].natural⟩
      (mem_actorsOf.mpr ⟨List.getElem?_eq_getElem _, rfl⟩) ending failure hnatural hending
    simp only at this
    omega

/-! ## The return -/

theorem returnTime_le (graceMs : Nat) : returnTime plans graceMs order ≤ order + graceMs := by
  unfold returnTime
  split
  · exact Nat.min_le_left _ _
  · exact Nat.le_refl _

/-- When no task is left to tell, the supervisor returns at once. -/
theorem returnTime_of_escapes (graceMs : Nat)
    (hall : ∀ actor ∈ actorsOf plans, actor.escapes plans order = true) :
    returnTime plans graceMs order = order := by
  have hends : ∀ moment ∈ (actorsOf plans).map (·.endTold plans order),
      ∃ time ≤ order, moment = some time := by
    simp only [List.mem_map]
    rintro _ ⟨actor, hactor, rfl⟩
    obtain ⟨fate, hfate, hle⟩ := Actor.le_of_escapes (hall actor hactor)
    exact ⟨fate.1, hle, by rw [Actor.endTold_of_escapes (hall actor hactor), hfate]; rfl⟩
  unfold returnTime
  split
  next last hlast =>
    have hle : last ≤ order := by
      rcases (of_last?_eq_some hlast).2 with rfl | hmem
      · exact Nat.zero_le _
      · obtain ⟨time, hle, htime⟩ := hends _ hmem
        cases htime
        exact hle
    omega
  next hlast =>
    obtain ⟨time, -, hnone⟩ := hends _ (last?_eq_none_iff.mp hlast)
    cases hnone

/-- At the return the grace period is over, or all tasks that were told to end have. -/
theorem returnTime_enough (graceMs : Nat) :
    returnTime plans graceMs order = order + graceMs ∨
      ∀ actor ∈ actorsOf plans, actor.escapes plans order = false →
        ∃ fate, (actor.told order).fate = some fate ∧ fate.1 ≤ returnTime plans graceMs order := by
  unfold returnTime
  split
  next last hlast =>
    by_cases hgrace : order + graceMs ≤ max order last
    · exact .inl (Nat.min_eq_left hgrace)
    · refine .inr fun actor hactor hreached => ?_
      obtain ⟨time, hle, htime⟩ := (of_last?_eq_some hlast).1 _ (List.mem_map_of_mem hactor)
      rw [Actor.endTold_of_reached hreached, Option.map_eq_some_iff] at htime
      obtain ⟨fate, hfate, rfl⟩ := htime
      exact ⟨fate, hfate, by omega⟩
  · exact .inl rfl

/-- Some task that was told to end does not end before the return. -/
theorem returnTime_needed (graceMs : Nat) (hactor : actor ∈ actorsOf plans)
    (hreached : actor.escapes plans order = false) :
    ∃ other ∈ actorsOf plans, other.escapes plans order = false ∧
      ∀ fate, (other.told order).fate = some fate → returnTime plans graceMs order ≤ fate.1 := by
  unfold returnTime
  split
  next last hlast =>
    by_cases hlate : last ≤ order
    · refine ⟨actor, hactor, hreached, fun fate hfate => ?_⟩
      have := Actor.le_of_told hreached hfate
      omega
    · obtain ⟨-, hzero | hmem⟩ := of_last?_eq_some hlast
      · omega
      · obtain ⟨other, hother, hend⟩ := List.mem_map.mp hmem
        cases hescapes : other.escapes plans order with
        | true =>
            obtain ⟨fate, hfate, hle⟩ := Actor.le_of_escapes hescapes
            rw [Actor.endTold_of_escapes hescapes, hfate] at hend
            cases hend
            omega
        | false =>
            refine ⟨other, hother, hescapes, fun fate hfate => ?_⟩
            rw [Actor.endTold_of_reached hescapes, hfate] at hend
            cases hend
            omega
  next hlast =>
    obtain ⟨other, hother, hend⟩ := List.mem_map.mp (last?_eq_none_iff.mp hlast)
    cases hescapes : other.escapes plans order with
    | true =>
        obtain ⟨fate, hfate, -⟩ := Actor.le_of_escapes hescapes
        simp [Actor.endTold_of_escapes hescapes, hfate] at hend
    | false =>
        refine ⟨other, hother, hescapes, fun fate hfate => ?_⟩
        simp [Actor.endTold_of_reached hescapes, hfate] at hend

end Rescan.Supervisor
