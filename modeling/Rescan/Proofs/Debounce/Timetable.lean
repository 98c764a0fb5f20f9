import Rescan.Proofs.Debounce.Attributed

/-! # Timetables

When the drains of a loop begin is told by when those before them began and ended, as long as the
loop serves a tick as soon as it is due and no drain is under way. A tick that is served late puts
off the ones after it, all but for the tolerance, so that drains are never closer together.
-/

namespace Rescan.Debounce

/-! ## Tickers -/

/-- The tick after one that was served is due one interval later, or earlier by no more than the
tolerance. -/
theorem Ticker.due_fire (ticker : Ticker) {now : Nat} (hdue : ticker.due ≤ now) :
    now + ticker.interval ≤ (ticker.fire now).due + tolerance ∧
      (ticker.fire now).due ≤ now + ticker.interval := by
  unfold fire
  split
  · dsimp only
    omega
  · exact ⟨Nat.le_add_right _ _, Nat.le_refl _⟩

theorem Ticker.due_fire_due (ticker : Ticker) :
    (ticker.fire ticker.due).due = ticker.due + ticker.interval := by
  rw [fire, if_pos (Nat.le_add_right _ _)]

/-! ## Timetables -/

/-- The times at which the drains of a loop begin and end, with the ticker for the next one. A drain
begins as soon as the last one has ended and the tick is due. -/
inductive Timetable (start interval : Nat) : List Nat → List Nat → Ticker → Prop where
  | empty : Timetable start interval [] [] (Ticker.starting start interval)
  | began {starts ends : List Nat} {ticker : Ticker} {time : Nat}
      (htable : Timetable start interval starts ends ticker)
      (hlength : starts.length = ends.length) (hready : ends.getLastD start ≤ time)
      (hdue : ticker.due ≤ time) (hprompt : time ≤ max (ends.getLastD start) ticker.due) :
      Timetable start interval (starts ++ [time]) ends (ticker.fire time)
  | ended {starts ends : List Nat} {ticker : Ticker} (time : Nat)
      (htable : Timetable start interval starts ends ticker)
      (hlength : starts.length = ends.length + 1) :
      Timetable start interval starts (ends ++ [time]) ticker

theorem getElem?_append_of_some {times : List Nat} {k time : Nat} (htime : times[k]? = some time)
    (more : List Nat) : (times ++ more)[k]? = some time := by
  rw [List.getElem?_append_left (List.getElem?_eq_some_iff.mp htime).1, htime]

theorem getElem?_concat_cases {times : List Nat} {k time last : Nat}
    (htime : (times ++ [last])[k]? = some time) :
    times[k]? = some time ∨ k = times.length ∧ time = last := by
  rcases Nat.lt_or_ge k times.length with hinner | hedge
  · rw [List.getElem?_append_left hinner] at htime
    exact Or.inl htime
  · rw [List.getElem?_append_right hedge, List.getElem?_singleton] at htime
    split at htime
    · exact Or.inr ⟨by omega, (Option.some.inj htime).symm⟩
    · cases htime

theorem getLastD_of_getElem? {times : List Nat} {k time : Nat} (hlength : times.length = k + 1)
    (htime : times[k]? = some time) (start : Nat) : times.getLastD start = time := by
  rw [List.getLastD_eq_getLast?, List.getLast?_eq_getElem?, hlength, Nat.add_sub_cancel, htime,
    Option.getD_some]

namespace Timetable

variable {start interval : Nat} {starts ends : List Nat} {ticker : Ticker}
  (htable : Timetable start interval starts ends ticker)

include htable

theorem length_cases :
    starts.length = ends.length ∨ starts.length = ends.length + 1 := by
  cases htable with
  | empty => exact Or.inl rfl
  | began _ hlength =>
      rw [List.length_append, hlength]
      exact Or.inr rfl
  | ended time _ hlength =>
      rw [List.length_append, hlength]
      exact Or.inl rfl

theorem interval_eq : ticker.interval = interval := by
  induction htable with
  | empty => rfl
  | began _ _ _ _ _ ih => rw [Ticker.fire_interval, ih]
  | ended _ _ _ ih => exact ih

theorem due_of_nil (hstarts : starts = []) : ticker.due = start + interval := by
  cases htable with
  | empty => rfl
  | began => simp at hstarts
  | ended _ _ hlength =>
      rw [hstarts] at hlength
      simp at hlength

/-- The next tick is due about one interval after the last drain began. -/
theorem due_of_last {k last : Nat} (hlength : starts.length = k + 1)
    (hlast : starts[k]? = some last) :
    last + interval ≤ ticker.due + Ticker.tolerance ∧ ticker.due ≤ last + interval := by
  induction htable with
  | empty => cases hlast
  | began htable _ _ hdue _ _ =>
      obtain rfl : _ = k := by simpa using hlength
      obtain rfl : _ = last := by simpa using hlast
      rw [← htable.interval_eq]
      exact Ticker.due_fire _ hdue
  | ended _ _ _ ih => exact ih hlength hlast

theorem first_start {first : Nat} (hfirst : starts[0]? = some first) :
    first = start + interval := by
  induction htable with
  | empty => cases hfirst
  | @began starts ends ticker time htable hlength _ hdue hprompt ih =>
      cases starts with
      | cons other rest => exact ih (by simpa using hfirst)
      | nil =>
          obtain rfl : _ = first := by simpa using hfirst
          have hnone : ends = [] := List.length_eq_zero_iff.mp hlength.symm
          have htick := htable.due_of_nil rfl
          rw [hnone, List.getLastD_nil] at hprompt
          omega
  | ended _ _ _ ih => exact ih hfirst

/-- A drain begins no sooner than the one before it has ended and its own tick may be due, and no
later than both are the case. -/
theorem next_start {k last done next : Nat} (hlast : starts[k]? = some last)
    (hdone : ends[k]? = some done) (hnext : starts[k + 1]? = some next) :
    max done (last + interval - Ticker.tolerance) ≤ next ∧ next ≤ max done (last + interval) := by
  induction htable with
  | empty => cases hlast
  | @began starts ends ticker time htable hlength hready hdue hprompt ih =>
      have hk : k < ends.length := (List.getElem?_eq_some_iff.mp hdone).1
      rw [List.getElem?_append_left (hlength ▸ hk)] at hlast
      rcases getElem?_concat_cases hnext with hnext | ⟨hcount, rfl⟩
      · exact ih hlast hdone hnext
      · -- The next drain is the one that begins.
        rw [getLastD_of_getElem? (hlength.symm.trans hcount.symm) hdone] at hready hprompt
        have htick := htable.due_of_last hcount.symm hlast
        omega
  | @ended starts ends ticker time htable hlength ih =>
      have hk : k + 1 < starts.length := (List.getElem?_eq_some_iff.mp hnext).1
      rw [List.getElem?_append_left (by omega)] at hdone
      exact ih hlast hdone hnext

/-- Drains that take no longer than the interval begin at regular times. -/
theorem punctual
    (hquick : ∀ (k last done : Nat), starts[k]? = some last → ends[k]? = some done →
      done ≤ last + interval) :
    ticker.due = start + (starts.length + 1) * interval ∧
      ∀ k time, starts[k]? = some time → time = start + (k + 1) * interval := by
  induction htable with
  | empty => exact ⟨by rw [List.length_nil, Nat.zero_add, Nat.one_mul]; rfl, nofun⟩
  | @began starts ends ticker time htable hlength hready hdue hprompt ih =>
      obtain ⟨hticker, hregular⟩ := ih fun k last done hlast hdone =>
        hquick k last done (getElem?_append_of_some hlast [time]) hdone
      -- The last drain is over when the tick is due, so that the tick is served at once.
      have hover : ends.getLastD start ≤ ticker.due := by
        cases hcount : ends.length with
        | zero =>
            rw [List.length_eq_zero_iff.mp hcount, List.getLastD_nil, hticker]
            exact Nat.le_add_right ..
        | succ count =>
            have hlast := List.getElem?_eq_getElem (l := starts) (i := count) (by omega)
            have hdone := List.getElem?_eq_getElem (l := ends) (i := count) (by omega)
            have hlate := hquick _ _ _ (getElem?_append_of_some hlast [time]) hdone
            rw [hregular _ _ hlast, Nat.add_assoc, ← Nat.add_one_mul] at hlate
            rw [getLastD_of_getElem? hcount hdone, hticker, hlength.trans hcount]
            exact hlate
      obtain rfl : time = ticker.due := by omega
      rw [Ticker.due_fire_due, htable.interval_eq, hticker, List.length_append,
        List.length_singleton, Nat.add_assoc, ← Nat.add_one_mul]
      refine ⟨rfl, fun k time htime => ?_⟩
      rcases getElem?_concat_cases htime with htime | ⟨rfl, rfl⟩
      · exact hregular k time htime
      · rfl
  | @ended starts ends ticker time htable hlength ih =>
      exact ih fun k last done hlast hdone =>
        hquick k last done hlast (getElem?_append_of_some hdone [time])

/-- If the interval is longer than the tolerance no two drains begin at once. -/
theorem starts_lt (hinterval : Ticker.tolerance < interval) {k last next : Nat}
    (hlast : starts[k]? = some last) (hnext : starts[k + 1]? = some next) : last < next := by
  have hk : k + 1 < starts.length := (List.getElem?_eq_some_iff.mp hnext).1
  have hended : k < ends.length := by
    have hlength := htable.length_cases
    omega
  have hdone := List.getElem?_eq_getElem hended
  have hlate := (htable.next_start hlast hdone hnext).1
  omega

theorem pairwise_starts (hinterval : Ticker.tolerance < interval) :
    starts.Pairwise (· < ·) := by
  rw [← List.isChain_iff_pairwise, List.isChain_iff_getElem]
  intro k hk
  exact htable.starts_lt hinterval (List.getElem?_eq_getElem _) (List.getElem?_eq_getElem _)

end Timetable

end Rescan.Debounce
