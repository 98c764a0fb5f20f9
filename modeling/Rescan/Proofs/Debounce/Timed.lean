import Rescan.Proofs.Debounce.Pending
import Rescan.Proofs.Debounce.Timetable

/-! # A debouncer in the course of time

Moves take no time, and time goes on between them, but not past the tick that an idle loop waits
for. The times at which the drains of the loop begin and end are noted; as long as the loop goes on
they make a timetable, whatever else happens.
-/

namespace Rescan.Debounce

open Rescan.Resource (Key)

/-! ## What the loop is at -/

theorem Loop.of_awaited?_eq_some {loop : Loop} {ticker : Ticker}
    (hloop : loop.awaited? = some ticker) : loop.busy? = none ∧ loop.phase = .running := by
  cases loop with
  | idle => exact ⟨rfl, rfl⟩
  | _ => cases hloop

theorem Loop.of_busy?_eq_some {loop : Loop} {ticker : Ticker}
    (hloop : loop.busy? = some ticker) : loop.awaited? = none ∧ loop.phase = .running := by
  cases loop with
  | draining => exact ⟨rfl, rfl⟩
  | _ => cases hloop

/-- A move as it is made at a time. -/
def Move.onClock (now : Nat) : Move → Move
  | .tick _ => .tick now
  | .start _ attribution => .start now attribution
  | move => move

theorem Move.eq_of_onClock_eq_tick {now time : Nat} {move : Move}
    (hmove : move.onClock now = .tick time) : time = now := by
  cases move with
  | tick => exact (Move.tick.inj hmove).symm
  | _ => cases hmove

namespace Debouncer

/-- A loop that goes on keeps what it is at, or it begins the drain of a tick that is due, or its
drain ends. -/
theorem step_loop_cases {debouncer : Debouncer} (hsound : debouncer.Sound) (move : Move)
    (hrunning : debouncer.loop.phase = .running)
    (hgoing : (debouncer.step move).cancelled = false) :
    ((debouncer.step move).loop.awaited? = debouncer.loop.awaited? ∧
      (debouncer.step move).loop.busy? = debouncer.loop.busy?) ∨
    (∃ ticker now, move = .tick now ∧ debouncer.loop.awaited? = some ticker ∧ ticker.due ≤ now ∧
      (debouncer.step move).loop.busy? = some (ticker.fire now) ∧ debouncer.begun move ≠ []) ∨
    ∃ ticker, debouncer.loop.busy? = some ticker ∧
      (debouncer.step move).loop.awaited? = some ticker := by
  cases debouncer.loop_change move with
  | kept _ hawaited hbusy => exact Or.inl ⟨hawaited, hbusy⟩
  | opened now attribution hopened =>
      have hstarted : debouncer.queue.phase ≠ .uninitialized := by
        rw [hsound.phase_eq, hrunning]
        intro hphase
        cases hphase
      rw [opened_eq_nil hstarted] at hopened
      cases hopened
  | ended hcancelled =>
      rw [step_cancelled, hcancelled] at hgoing
      cases hgoing
  | @began _ ticker now hmove hbefore hdue hloop =>
      have hbegun : debouncer.begun move ≠ [] := by
        subst hmove
        rw [step] at hloop
        simp [begun, hbefore, hloop]
      exact Or.inr (Or.inl ⟨ticker, now, hmove, by rw [hbefore]; rfl, hdue, by rw [hloop]; rfl,
        hbegun⟩)
  | @closed ticker _ hbefore hloop =>
      exact Or.inr (Or.inr ⟨ticker, by rw [hbefore]; rfl, by rw [hloop]; rfl⟩)

end Debouncer

/-! ## The clock -/

/-- A debouncer at a moment, with when the drains of its loop began and ended. -/
structure Timed where
  debouncer : Debouncer
  /-- The time in milliseconds. -/
  now : Nat
  starts : List Nat := []
  ends : List Nat := []

namespace Timed

/-- What happens next: time goes on, or the debouncer makes a move. -/
inductive Event where
  | wait (ms : Nat)
  | act (move : Move)
  deriving DecidableEq, Repr

/-- The moves of an event, made at the time it is. -/
def moves (timed : Timed) : Event → List Move
  | .wait _ => []
  | .act move => [move.onClock timed.now]

/-- The keys of the drains that an event begins. -/
def begun (timed : Timed) (event : Event) : List (List Key) :=
  timed.debouncer.history Debouncer.begun (timed.moves event)

/-- The time after an event. While the loop waits for a tick, time does not go past it. -/
def later (timed : Timed) : Event → Nat
  | .wait ms =>
    match timed.debouncer.loop.awaited? with
    | some ticker => min (timed.now + ms) (max timed.now ticker.due)
    | none => timed.now + ms
  | .act _ => timed.now

/-- Notes the time of an event if the loop begins or ends a drain. -/
def step (timed : Timed) (event : Event) : Timed :=
  let debouncer := timed.debouncer.run (timed.moves event)
  { debouncer
    now := timed.later event
    starts := timed.starts ++
      if timed.debouncer.loop.busy? = none ∧ debouncer.loop.busy? ≠ none then [timed.now] else []
    ends := timed.ends ++
      if timed.debouncer.loop.busy? ≠ none ∧ debouncer.loop.busy? = none then [timed.now] else [] }

abbrev run (timed : Timed) (events : List Event) : Timed := Steps.run step timed events

section Step

variable (timed : Timed)

@[simp] theorem debouncer_step (event : Event) :
    (timed.step event).debouncer = timed.debouncer.run (timed.moves event) := rfl

theorem now_le_later (event : Event) : timed.now ≤ timed.later event := by
  unfold later
  split
  · split <;> omega
  · exact Nat.le_refl _

theorem later_le (event : Event) {ticker : Ticker}
    (hloop : timed.debouncer.loop.awaited? = some ticker) :
    timed.later event ≤ max timed.now ticker.due := by
  cases event with
  | wait ms =>
      simp only [later, hloop]
      exact Nat.min_le_right ..
  | act move => exact Nat.le_max_left ..

/-- An event notes nothing if the loop stays at its drain, or at none. -/
theorem notes_of_busy? (event : Event)
    (hbusy : (timed.step event).debouncer.loop.busy? = timed.debouncer.loop.busy?) :
    (timed.step event).starts = timed.starts ∧ (timed.step event).ends = timed.ends := by
  rw [debouncer_step] at hbusy
  simp [step, hbusy]

/-- The beginning of a drain is noted. -/
theorem notes_of_began (event : Event) (hbefore : timed.debouncer.loop.busy? = none)
    (hafter : (timed.step event).debouncer.loop.busy? ≠ none) :
    (timed.step event).starts = timed.starts ++ [timed.now] ∧
      (timed.step event).ends = timed.ends := by
  rw [debouncer_step] at hafter
  simp [step, hbefore, hafter]

/-- The end of a drain is noted. -/
theorem notes_of_ended (event : Event) (hbefore : timed.debouncer.loop.busy? ≠ none)
    (hafter : (timed.step event).debouncer.loop.busy? = none) :
    (timed.step event).starts = timed.starts ∧
      (timed.step event).ends = timed.ends ++ [timed.now] := by
  rw [debouncer_step] at hafter
  simp [step, hbefore, hafter]

end Step

section Notes

variable (timed : Timed) (events : List Event)

/-- What is noted stays noted, and what is noted later is no earlier than now. -/
theorem run_notes :
    (∃ more, (timed.run events).starts = timed.starts ++ more) ∧
      (∃ more, (timed.run events).ends = timed.ends ++ more ∧ ∀ time ∈ more, timed.now ≤ time) := by
  induction events generalizing timed with
  | nil => exact ⟨⟨[], (List.append_nil _).symm⟩, [], (List.append_nil _).symm, nofun⟩
  | cons event events ih =>
      obtain ⟨⟨starts, hstarts⟩, ends, hends, hlate⟩ := ih (timed.step event)
      refine ⟨⟨_, hstarts.trans (by rw [step, List.append_assoc])⟩, _,
        hends.trans (by rw [step, List.append_assoc]), fun time htime => ?_⟩
      rcases List.mem_append.mp htime with hnow | hafter
      · split at hnow
        · exact Nat.le_of_eq (List.mem_singleton.mp hnow).symm
        · cases hnow
      · exact Nat.le_trans (timed.now_le_later event) (hlate time hafter)

theorem exists_debouncer_run :
    ∃ moves, (timed.run events).debouncer = timed.debouncer.run moves :=
  ⟨_, Steps.part_run debouncer debouncer_step events⟩

variable {timed events}

/-- A loop that is not to end at last was not to end before. -/
theorem cancelled_of_run (hgoing : (timed.run events).debouncer.cancelled = false) :
    timed.debouncer.cancelled = false := by
  obtain ⟨moves, hmoves⟩ := timed.exists_debouncer_run events
  rw [hmoves] at hgoing
  by_contra hcancelled
  rw [Debouncer.run_cancelled (eq_true_of_ne_false hcancelled)] at hgoing
  cases hgoing

theorem sound_run (hsound : timed.debouncer.Sound) : (timed.run events).debouncer.Sound := by
  obtain ⟨moves, hmoves⟩ := timed.exists_debouncer_run events
  rw [hmoves]
  exact hsound.run moves

end Notes

/-! ## On time -/

/-- The drains that began and ended make a timetable, and while the loop waits the tick that it
waits for is not missed. -/
inductive OnTime (start interval : Nat) (timed : Timed) : Prop where
  | waiting {ticker : Ticker} (hloop : timed.debouncer.loop.awaited? = some ticker)
      (htable : Timetable start interval timed.starts timed.ends ticker)
      (hlength : timed.starts.length = timed.ends.length)
      (hready : timed.ends.getLastD start ≤ timed.now)
      (hprompt : timed.now ≤ max (timed.ends.getLastD start) ticker.due)
  | draining {ticker : Ticker} (hloop : timed.debouncer.loop.busy? = some ticker)
      (htable : Timetable start interval timed.starts timed.ends ticker)
      (hlength : timed.starts.length = timed.ends.length + 1)

section OnTime

variable {start interval : Nat} {timed : Timed} (hontime : timed.OnTime start interval)

include hontime

theorem OnTime.phase : timed.debouncer.loop.phase = .running := by
  cases hontime with
  | waiting hloop => exact (Loop.of_awaited?_eq_some hloop).2
  | draining hloop => exact (Loop.of_busy?_eq_some hloop).2

theorem OnTime.queue_phase_ne_stopped (hsound : timed.debouncer.Sound) :
    timed.debouncer.queue.phase ≠ .stopped := by
  rw [hsound.phase_eq, hontime.phase]
  intro hphase
  cases hphase

theorem OnTime.timetable :
    ∃ ticker, Timetable start interval timed.starts timed.ends ticker := by
  cases hontime with
  | waiting _ htable => exact ⟨_, htable⟩
  | draining _ htable => exact ⟨_, htable⟩

/-- Before the first drain the first tick is not missed. -/
theorem OnTime.now_le_first (hstarts : timed.starts = []) : timed.now ≤ start + interval := by
  cases hontime with
  | waiting _ htable hlength _ hprompt =>
      have hends : timed.ends = [] := by
        rw [← List.length_eq_zero_iff, ← hlength, hstarts, List.length_nil]
      rw [hends, List.getLastD_nil, htable.due_of_nil hstarts] at hprompt
      omega
  | draining _ _ hlength =>
      rw [hstarts] at hlength
      cases hlength

/-- After a drain that has ended the next tick is not missed. -/
theorem OnTime.now_le_next {k last done : Nat} (hlength : timed.starts.length = k + 1)
    (hlast : timed.starts[k]? = some last) (hdone : timed.ends[k]? = some done) :
    timed.now ≤ max done (last + interval) := by
  have hended : k < timed.ends.length := (List.getElem?_eq_some_iff.mp hdone).1
  cases hontime with
  | waiting _ htable hequal _ hprompt =>
      rw [getLastD_of_getElem? (hequal.symm.trans hlength) hdone] at hprompt
      have htick := (htable.due_of_last hlength hlast).2
      omega
  | draining _ _ hmore => omega

end OnTime

section Step

variable {start interval : Nat} {timed : Timed} (hontime : timed.OnTime start interval)
  {event : Event}

include hontime

theorem OnTime.step_of_kept
    (hawaited : (timed.step event).debouncer.loop.awaited? = timed.debouncer.loop.awaited?)
    (hbusy : (timed.step event).debouncer.loop.busy? = timed.debouncer.loop.busy?) :
    (timed.step event).OnTime start interval := by
  obtain ⟨hstarts, hends⟩ := timed.notes_of_busy? event hbusy
  cases hontime with
  | waiting hloop htable hlength hready hprompt =>
      have hlate : (timed.step event).now ≤ _ := timed.later_le event hloop
      rw [← hstarts, ← hends] at htable hlength
      rw [← hends] at hready hprompt
      exact .waiting (hawaited.trans hloop) htable hlength
        (Nat.le_trans hready (timed.now_le_later event)) (by omega)
  | draining hloop htable hlength =>
      rw [← hstarts, ← hends] at htable hlength
      exact .draining (hbusy.trans hloop) htable hlength

/-- A tick that is served begins the next drain of the timetable. -/
theorem OnTime.step_of_began {move : Move} {ticker : Ticker}
    (hbefore : timed.debouncer.loop.awaited? = some ticker) (hdue : ticker.due ≤ timed.now)
    (hafter : (timed.step (.act move)).debouncer.loop.busy? = some (ticker.fire timed.now)) :
    (timed.step (.act move)).OnTime start interval := by
  obtain ⟨hstarts, hends⟩ := timed.notes_of_began (.act move) (Loop.of_awaited?_eq_some hbefore).1
    (by rw [hafter]; exact Option.some_ne_none _)
  cases hontime with
  | waiting hloop htable hlength hready hprompt =>
      obtain rfl := Option.some.inj (hloop.symm.trans hbefore)
      refine .draining hafter ?_ ?_
      · rw [hstarts, hends]
        exact htable.began hlength hready hdue hprompt
      · rw [hstarts, hends, List.length_append, hlength, List.length_singleton]
  | draining hloop =>
      rw [(Loop.of_busy?_eq_some hloop).1] at hbefore
      cases hbefore

/-- When a drain ends the loop waits for the tick after it. -/
theorem OnTime.step_of_ended {move : Move} {ticker : Ticker}
    (hbefore : timed.debouncer.loop.busy? = some ticker)
    (hafter : (timed.step (.act move)).debouncer.loop.awaited? = some ticker) :
    (timed.step (.act move)).OnTime start interval := by
  obtain ⟨hstarts, hends⟩ := timed.notes_of_ended (.act move)
    (by rw [hbefore]; exact Option.some_ne_none _) (Loop.of_awaited?_eq_some hafter).1
  cases hontime with
  | waiting hloop =>
      rw [(Loop.of_awaited?_eq_some hloop).1] at hbefore
      cases hbefore
  | draining hloop htable hlength =>
      obtain rfl := Option.some.inj (hloop.symm.trans hbefore)
      have hlast : (timed.step (.act move)).ends.getLastD start = timed.now := by
        rw [hends, List.getLastD_concat]
      refine .waiting hafter ?_ ?_ (Nat.le_of_eq hlast) (hlast ▸ Nat.le_max_left ..)
      · rw [hstarts, hends]
        exact htable.ended timed.now hlength
      · rw [hstarts, hends, List.length_append, hlength, List.length_singleton]

/-- Every event keeps a loop that goes on on time. -/
theorem OnTime.step (hsound : timed.debouncer.Sound)
    (hgoing : (timed.step event).debouncer.cancelled = false) :
    (timed.step event).OnTime start interval := by
  cases event with
  | wait ms => exact hontime.step_of_kept rfl rfl
  | act move =>
      rcases Debouncer.step_loop_cases hsound (move.onClock timed.now) hontime.phase hgoing with
        ⟨hawaited, hbusy⟩ | ⟨ticker, now, hmove, hbefore, hdue, hafter, _⟩ |
          ⟨ticker, hbefore, hafter⟩
      · exact hontime.step_of_kept hawaited hbusy
      · obtain rfl := Move.eq_of_onClock_eq_tick hmove
        exact hontime.step_of_began hbefore hdue hafter
      · exact hontime.step_of_ended hbefore hafter

end Step

/-- A loop that goes on is on time all along. -/
theorem OnTime.run {start interval : Nat} {timed : Timed} (hontime : timed.OnTime start interval)
    (hsound : timed.debouncer.Sound) {events : List Event}
    (hgoing : (timed.run events).debouncer.cancelled = false) :
    (timed.run events).OnTime start interval := by
  induction events generalizing timed with
  | nil => exact hontime
  | cons event events ih =>
      exact ih (hontime.step hsound (cancelled_of_run hgoing)) (hsound.run _) hgoing

end Timed

end Rescan.Debounce
