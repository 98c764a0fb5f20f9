import Rescan.Proofs.Debounce.Timed

/-! # When drains begin and keys are taken

However long the drains of a loop take, the next one begins once the last one has ended and the
interval of the settings has passed, and takes the keys that were added meanwhile.
-/

namespace Rescan.Debounce

open Rescan.Resource (Key)
open Rescan.Telemetry (Meter)
open Rescan.Topology (Registry)

namespace Timed

/-! ## Keys in time -/

/-- A drain that begins no later than a time takes a key. -/
def TakenBy (timed : Timed) (events : List Event) (key : Key) (time : Nat) : Prop :=
  ∃ first event last, events = first ++ event :: last ∧ (timed.run first).now ≤ time ∧
    ∃ keys ∈ (timed.run first).begun event, key ∈ keys

theorem TakenBy.cons {timed : Timed} {event : Event} {events : List Event} {key : Key}
    {time : Nat} (htaken : (timed.step event).TakenBy events key time) :
    timed.TakenBy (event :: events) key time := by
  obtain ⟨first, other, last, rfl, htime, hkeys⟩ := htaken
  exact ⟨event :: first, other, last, rfl, htime, hkeys⟩

/-- A pending key is taken by the drain that begins, or stays pending if none does. -/
theorem pending_step_cases {timed : Timed} (hsound : timed.debouncer.Sound) {event : Event}
    (hphase : (timed.step event).debouncer.queue.phase ≠ .stopped) {key : Key}
    (hpending : key ∈ timed.debouncer.queue.keys) :
    (∃ keys ∈ timed.begun event, key ∈ keys) ∨
      timed.begun event = [] ∧ key ∈ (timed.step event).debouncer.queue.keys := by
  by_cases hbegun : timed.begun event = []
  · exact Or.inr ⟨hbegun, (Debouncer.mem_keys_run hsound hbegun hphase key).mpr (Or.inl hpending)⟩
  · refine Or.inl ⟨timed.debouncer.queue.keys, ?_, hpending⟩
    cases event with
    | wait => exact absurd rfl hbegun
    | act move =>
        simp only [begun, moves, Steps.history_cons, Steps.history_nil,
          List.append_nil] at hbegun ⊢
        have hchange := timed.debouncer.step_change (move.onClock timed.now) hsound.phase_eq
        rcases hchange.begun_cases with hnone | ⟨hall, _⟩
        · exact absurd hnone hbegun
        · rw [hall]
          exact List.mem_singleton_self _

section Keys

variable {start interval : Nat} {timed : Timed} (hontime : timed.OnTime start interval)
  (hsound : timed.debouncer.Sound)

include hontime hsound

/-- The loop begins no drain in an event in which none begins. -/
theorem OnTime.starts_step (event : Event) (hbegun : timed.begun event = [])
    (hgoing : (timed.step event).debouncer.cancelled = false) :
    (timed.step event).starts = timed.starts := by
  cases event with
  | wait ms => exact (timed.notes_of_busy? (.wait ms) rfl).1
  | act move =>
      rcases Debouncer.step_loop_cases hsound (move.onClock timed.now) hontime.phase hgoing with
        ⟨_, hbusy⟩ | ⟨_, _, _, _, _, _, hbegins⟩ | ⟨ticker, hbefore, hafter⟩
      · exact (timed.notes_of_busy? (.act move) hbusy).1
      · exact absurd (List.append_eq_nil_iff.mp hbegun).1 hbegins
      · exact (timed.notes_of_ended (.act move)
          (by rw [hbefore]; exact Option.some_ne_none _) (Loop.of_awaited?_eq_some hafter).1).1

omit hsound in
/-- Until a drain has ended, and one interval has passed, it is not late for the next one. -/
theorem OnTime.now_le {events : List Event} {k last done : Nat}
    (hlength : timed.starts.length = k + 1) (hlast : timed.starts[k]? = some last)
    (hdone : (timed.run events).ends[k]? = some done) : timed.now ≤ max done (last + interval) := by
  obtain ⟨more, hmore, hlate⟩ := (timed.run_notes events).2
  rcases Nat.lt_or_ge k timed.ends.length with hended | hopen
  · rw [hmore, List.getElem?_append_left hended] at hdone
    exact hontime.now_le_next hlength hlast hdone
  · rw [hmore, List.getElem?_append_right hopen] at hdone
    exact Nat.le_trans (hlate done (List.mem_of_getElem? hdone)) (Nat.le_max_left ..)

/-- A pending key is taken in time, or it is still pending and it is not late. -/
theorem OnTime.takenBy_or_pending {events : List Event}
    (hgoing : (timed.run events).debouncer.cancelled = false) {key : Key}
    (hpending : key ∈ timed.debouncer.queue.keys) {k last done : Nat}
    (hlength : timed.starts.length = k + 1) (hlast : timed.starts[k]? = some last)
    (hdone : (timed.run events).ends[k]? = some done) :
    timed.TakenBy events key (max done (last + interval)) ∨
      key ∈ (timed.run events).debouncer.queue.keys ∧
        (timed.run events).now ≤ max done (last + interval) := by
  induction events generalizing timed with
  | nil => exact Or.inr ⟨hpending, hontime.now_le hlength hlast hdone⟩
  | cons event events ih =>
      have hnext := hontime.step hsound (cancelled_of_run hgoing)
      have hphase := hnext.queue_phase_ne_stopped (hsound.run _)
      rcases pending_step_cases hsound hphase hpending with htaken | ⟨hbegun, hstays⟩
      · exact Or.inl ⟨[], event, events, rfl, hontime.now_le hlength hlast hdone, htaken⟩
      · have hstarts := hontime.starts_step hsound event hbegun (cancelled_of_run hgoing)
        rw [← hstarts] at hlength hlast
        rcases ih hnext (hsound.run _) hgoing hstays hlength hlast hdone with htaken | hrest
        · exact Or.inl htaken.cons
        · exact Or.inr hrest

/-- A key that is added after a drain began, and before the next one does, is taken in time, or it
is still pending and it is not late. -/
theorem OnTime.takenBy_of_add {key : Key} {events : List Event}
    (hgoing : (timed.run (.act (.add key) :: events)).debouncer.cancelled = false)
    {k last done : Nat} (hlength : timed.starts.length = k + 1)
    (hlast : (timed.run (.act (.add key) :: events)).starts[k]? = some last)
    (hdone : (timed.run (.act (.add key) :: events)).ends[k]? = some done) :
    (timed.step (.act (.add key))).TakenBy events key (max done (last + interval)) ∨
      key ∈ (timed.run (.act (.add key) :: events)).debouncer.queue.keys ∧
        (timed.run (.act (.add key) :: events)).now ≤ max done (last + interval) := by
  have hgoes : (timed.step (.act (.add key))).debouncer.cancelled = false :=
    cancelled_of_run hgoing
  have hpending : key ∈ (timed.step (.act (.add key))).debouncer.queue.keys :=
    (Debouncer.mem_keys_add (hontime.queue_phase_ne_stopped hsound) key key).mpr (Or.inr rfl)
  rw [← hontime.starts_step hsound (.act (.add key)) rfl hgoes] at hlength
  obtain ⟨more, hmore⟩ := ((timed.step (.act (.add key))).run_notes events).1
  change ((timed.step (.act (.add key))).run events).starts[k]? = some last at hlast
  rw [hmore, List.getElem?_append_left (by omega)] at hlast
  exact (hontime.step hsound hgoes).takenBy_or_pending (hsound.run _) hgoing hpending hlength hlast
    hdone

end Keys

/-! ## Drains of any duration -/

section Cycle

variable {timed : Timed} {ticker : Ticker}

theorem step_wait_due {ms : Nat} (hloop : timed.debouncer.loop.awaited? = some ticker)
    (hdue : ticker.due ≤ timed.now + ms) :
    timed.step (.wait ms) = { timed with now := max timed.now ticker.due } := by
  have hnow : timed.later (.wait ms) = max timed.now ticker.due := by
    simp only [later, hloop]
    omega
  simp [step, moves, hnow]

theorem step_wait_busy {ms : Nat} (hloop : timed.debouncer.loop.awaited? = none) :
    timed.step (.wait ms) = { timed with now := timed.now + ms } := by
  simp [step, moves, later, hloop]

theorem step_tick (timed : Timed) {attribution : Attribution} (time : Nat)
    (hloop : timed.debouncer.loop = .idle attribution ticker) (hdue : ticker.due ≤ timed.now) :
    timed.step (.act (.tick time)) = { timed with
      debouncer := { (timed.debouncer.take attribution).1 with
        loop := .draining (ticker.fire timed.now) (timed.debouncer.take attribution).2 }
      starts := timed.starts ++ [timed.now] } := by
  have htick : timed.debouncer.tick timed.now = { (timed.debouncer.take attribution).1 with
      loop := .draining (ticker.fire timed.now) (timed.debouncer.take attribution).2 } := by
    simp only [Debouncer.tick, hloop, if_pos hdue]
  simp [step, moves, later, Move.onClock, Debouncer.step, htick, hloop, Loop.busy?]

theorem step_closeLoop {drain : Drain} (hloop : timed.debouncer.loop = .draining ticker drain)
    (hcomplete : drain.isComplete = true) :
    timed.step (.act .closeLoop) = { timed with
      debouncer := { timed.debouncer with
        loop := .idle drain.attribution ticker
        meter := timed.debouncer.meter.countReport drain.report }
      ends := timed.ends ++ [timed.now] } := by
  simp [step, moves, later, Move.onClock, Debouncer.step, Debouncer.closeLoop, hcomplete, hloop,
    Loop.busy?]

end Cycle

/-- The loop waits for a tick that is due within the interval, no key is pending, and the loop is
to go on. -/
structure Resting (interval : Nat) (timed : Timed) : Prop where
  idle : ∃ attribution ticker, timed.debouncer.loop = .idle attribution ticker ∧
    ticker.interval = interval ∧ ticker.due ≤ timed.now + interval
  keys_eq : timed.debouncer.queue.keys = []
  going : timed.debouncer.cancelled = false

/-- The loop waits for its tick and carries out a drain that takes a given time. -/
def cycle (interval duration : Nat) : List Event :=
  [.wait interval, .act (.tick 0), .wait duration, .act .closeLoop]

theorem Resting.run_cycle {interval : Nat} {timed : Timed} (hresting : timed.Resting interval)
    (duration : Nat) :
    (timed.run (cycle interval duration)).Resting interval ∧
      ∃ time, (timed.run (cycle interval duration)).starts = timed.starts ++ [time] ∧
        (timed.run (cycle interval duration)).ends = timed.ends ++ [time + duration] := by
  obtain ⟨⟨attribution, ticker, hloop, hinterval, hdue⟩, hkeys, hgoing⟩ := hresting
  have htick := (ticker.due_fire (Nat.le_max_right timed.now ticker.due)).2
  have hfire := ticker.fire_interval (max timed.now ticker.due)
  have hdrain : (timed.debouncer.take attribution).2 = .ofKeys attribution [] := by
    simp [Debouncer.take, Queue.take, hkeys]
  simp only [cycle, Steps.run_cons, Steps.run_nil]
  rw [step_wait_due (by rw [hloop]; rfl) hdue,
    step_tick { timed with now := max timed.now ticker.due } 0 hloop (Nat.le_max_right ..),
    step_wait_busy rfl, step_closeLoop rfl (by rw [hdrain]; rfl)]
  rw [hinterval] at htick hfire
  have hlate := Nat.add_le_add_right (Nat.le_add_right (max timed.now ticker.due) duration) interval
  exact ⟨⟨⟨_, _, rfl, hfire, Nat.le_trans htick hlate⟩, rfl, hgoing⟩, _, rfl, rfl⟩

theorem Resting.exists_run {interval : Nat} {timed : Timed} (hresting : timed.Resting interval)
    (durations : List Nat) :
    ∃ events starts, (timed.run events).Resting interval ∧ starts.length = durations.length ∧
      (timed.run events).starts = timed.starts ++ starts ∧
      (timed.run events).ends = timed.ends ++ List.zipWith (· + ·) starts durations := by
  induction durations generalizing timed with
  | nil => exact ⟨[], [], hresting, rfl, (List.append_nil _).symm, (List.append_nil _).symm⟩
  | cons duration durations ih =>
      obtain ⟨hnext, time, hstart, hend⟩ := hresting.run_cycle duration
      obtain ⟨events, starts, hrests, hlength, hstarts, hends⟩ := ih hnext
      have hrun : timed.run (cycle interval duration ++ events) =
          (timed.run (cycle interval duration)).run events := Steps.run_append ..
      refine ⟨cycle interval duration ++ events, time :: starts, ?_, ?_, ?_, ?_⟩
      · rw [hrun]
        exact hrests
      · rw [List.length_cons, List.length_cons, hlength]
      · rw [hrun, hstarts, hstart, List.append_assoc, List.singleton_append]
      · rw [hrun, hends, hend, List.append_assoc, List.singleton_append,
          List.zipWith_cons_cons]

/-! ## The drains of a started loop -/

/-- A debouncer from the time on at which its loop is started. -/
def since (debouncer : Debouncer) (now : Nat) : Timed := { debouncer, now }

theorem onTime_since {settings : Settings.Debouncer} {registry : Registry} {meter : Meter}
    {before : List Move} {started : Debouncer} {now : Nat} {attribution : Attribution}
    (hstart : ((Debouncer.new settings registry meter).run before).start now attribution =
      .ok started) :
    (since started now).debouncer.Sound ∧
      (since started now).OnTime now settings.tickIntervalMs := by
  constructor
  · have hsound := ((Debouncer.new_sound settings registry meter).run before).step
      (.start now attribution)
    simp only [Debouncer.step, hstart] at hsound
    exact hsound
  · obtain ⟨_, _, _, hstarted, _⟩ := Debouncer.start_eq_ok hstart
    have hloop : (since started now).debouncer.loop.awaited? =
        some (.starting now settings.tickIntervalMs) := by
      rw [since, hstarted, Debouncer.run_settings]
      rfl
    exact .waiting hloop .empty rfl (Nat.le_refl now) (Nat.le_max_left ..)

/-- The drains of a started loop may take any time: for every sequence of durations there is a run
in which they take just so long. -/
theorem exists_run_of_durations {debouncer started : Debouncer} {now : Nat}
    {attribution : Attribution} (hstart : debouncer.start now attribution = .ok started)
    (hgoing : started.cancelled = false) (durations : List Nat) :
    ∃ events starts, ((since started now).run events).debouncer.cancelled = false ∧
      starts.length = durations.length ∧ ((since started now).run events).starts = starts ∧
      ((since started now).run events).ends = List.zipWith (· + ·) starts durations := by
  obtain ⟨_, _, _, hstarted, _⟩ := Debouncer.start_eq_ok hstart
  -- A caller takes the keys that are pending, so that the drains of the loop have none.
  have hloop : ((since started now).step (.act (.call attribution))).debouncer.loop =
      .idle attribution (.starting now debouncer.settings.tickIntervalMs) := by
    rw [since, hstarted]
    rfl
  have hresting : ((since started now).step (.act (.call attribution))).Resting
      debouncer.settings.tickIntervalMs := ⟨⟨_, _, hloop, rfl, Nat.le_refl _⟩, rfl, hgoing⟩
  obtain ⟨hstarts, hends⟩ := (since started now).notes_of_busy? (.act (.call attribution)) rfl
  obtain ⟨events, starts, hrests, hlength, hmore⟩ := hresting.exists_run durations
  rw [hstarts, hends] at hmore
  exact ⟨.act (.call attribution) :: events, starts, hrests.going, hlength, hmore⟩

/-- The first drain of a loop begins one interval after its start. Every other one begins once the
one before it has ended and the interval has passed since that one began, or all of the interval but
the tolerance. If the interval is longer than the tolerance no two drains begin at once, and if no
drain takes longer than the interval they begin at regular times. A key that is added is taken no
later than the next drain is to begin. Drains may take any time. -/
theorem drains_keep_interval (settings : Settings.Debouncer) (registry : Registry) (meter : Meter)
    (before : List Move) {started : Debouncer} {now : Nat} {attribution : Attribution}
    (hstart : ((Debouncer.new settings registry meter).run before).start now attribution =
      .ok started)
    (events : List Event)
    (hgoing : ((since started now).run events).debouncer.cancelled = false) :
    let interval := settings.tickIntervalMs
    let timed := (since started now).run events
    (∀ first, timed.starts[0]? = some first → first = now + interval) ∧
    (timed.starts = [] → timed.now ≤ now + interval) ∧
    (∀ (k last done next : Nat), timed.starts[k]? = some last → timed.ends[k]? = some done →
      timed.starts[k + 1]? = some next →
      max done (last + interval - Ticker.tolerance) ≤ next ∧ next ≤ max done (last + interval)) ∧
    (∀ (k last done : Nat), timed.starts.length = k + 1 → timed.starts[k]? = some last →
      timed.ends[k]? = some done → timed.now ≤ max done (last + interval)) ∧
    (Ticker.tolerance < interval → timed.starts.Pairwise (· < ·)) ∧
    (∀ (first later : List Event) (key : Key) (k last done : Nat),
      events = first ++ .act (.add key) :: later →
      ((since started now).run first).starts.length = k + 1 → timed.starts[k]? = some last →
      timed.ends[k]? = some done →
      ((since started now).run (first ++ [.act (.add key)])).TakenBy later key
          (max done (last + interval)) ∨
        key ∈ timed.debouncer.queue.keys ∧ timed.now ≤ max done (last + interval)) ∧
    ((∀ (k last done : Nat), timed.starts[k]? = some last → timed.ends[k]? = some done →
        done ≤ last + interval) →
      ∀ k time, timed.starts[k]? = some time → time = now + (k + 1) * interval) ∧
    ∀ durations : List Nat, ∃ events starts,
      ((since started now).run events).debouncer.cancelled = false ∧
      starts.length = durations.length ∧ ((since started now).run events).starts = starts ∧
      ((since started now).run events).ends = List.zipWith (· + ·) starts durations := by
  intro interval timed
  obtain ⟨hsound, hbegin⟩ := onTime_since hstart
  have hontime : timed.OnTime now interval := hbegin.run hsound hgoing
  obtain ⟨ticker, htable⟩ := hontime.timetable
  refine ⟨fun first => htable.first_start, hontime.now_le_first,
    fun k last done next => htable.next_start, fun k last done => hontime.now_le_next,
    htable.pairwise_starts, ?_, fun hquick => (htable.punctual hquick).2,
    exists_run_of_durations hstart (cancelled_of_run hgoing)⟩
  rintro first later key k last done rfl hlength hlast hdone
  simp only [timed, Steps.run_append] at hgoing hlast hdone ⊢
  have hthen := hbegin.run hsound (cancelled_of_run hgoing)
  exact hthen.takenBy_of_add (sound_run hsound) hgoing hlength hlast hdone

/-- A debouncer whose loop has just been started, with an interval of ten milliseconds. -/
def opening : Debouncer :=
  (Debouncer.new { tickIntervalMs := 10 } .empty {}).step (.start 1000 .none)

/-- The first drain is under way for seventeen milliseconds. -/
def slow : List Event := [.wait 10, .act (.tick 0), .wait 17]

/-- The first drain ends after another ten. The second one finds no target for its only key and
ends after five. The third one begins as soon as time allows. -/
def caughtUp : List Event :=
  [.wait 10, .act .closeLoop, .act (.tick 0), .act (.poll .loop),
    .act (.send ⟨0, ⟨"pod", "ns-a", "x"⟩, .none, .launched⟩), .wait 5, .act (.poll .loop),
    .act .closeLoop, .wait 100, .act (.tick 0)]

/-- A drain that takes longer than two intervals is followed by one more at once, which takes the
key that was added meanwhile, and the next one is a whole interval later. -/
theorem drains_keep_interval_slow :
    let timed := (since opening 1000).run (slow ++ .act (.add ⟨"pod", "ns-a", "x"⟩) :: caughtUp)
    ((Debouncer.new { tickIntervalMs := 10 } .empty {}).run []).start 1000 .none = .ok opening ∧
    timed.debouncer.cancelled = false ∧
    timed.starts = [1010, 1037, 1047] ∧ timed.ends = [1037, 1042] ∧
    (max 1042 (1037 + 10 - Ticker.tolerance) ≤ 1047 ∧ 1047 ≤ max 1042 (1037 + 10)) ∧
    timed.starts.Pairwise (· < ·) ∧
    ((since opening 1000).run (slow ++ [.act (.add ⟨"pod", "ns-a", "x"⟩)])).TakenBy caughtUp
      ⟨"pod", "ns-a", "x"⟩ 1037 := by
  intro timed
  have hstart : ((Debouncer.new { tickIntervalMs := 10 } .empty {}).run []).start 1000 .none =
      .ok opening := rfl
  have hgoing : timed.debouncer.cancelled = false := by decide +kernel
  have hstarts : timed.starts = [1010, 1037, 1047] := by decide +kernel
  have hends : timed.ends = [1037, 1042] := by decide +kernel
  have hnow : timed.now = 1047 := by decide +kernel
  obtain ⟨_, _, hnext, _, hapart, hkey, _⟩ :=
    drains_keep_interval { tickIntervalMs := 10 } .empty {} [] hstart
      (slow ++ .act (.add ⟨"pod", "ns-a", "x"⟩) :: caughtUp) hgoing
  refine ⟨hstart, hgoing, hstarts, hends, ?_, hapart (by decide), ?_⟩
  · exact hnext 1 1037 1042 1047 (by rw [hstarts]; rfl) (by rw [hends]; rfl) (by rw [hstarts]; rfl)
  · have hlength : ((since opening 1000).run slow).starts.length = 0 + 1 := by decide +kernel
    rcases hkey slow caughtUp _ 0 1010 1037 rfl hlength (by rw [hstarts]; rfl)
      (by rw [hends]; rfl) with htaken | ⟨_, hlate⟩
    · exact htaken
    · rw [hnow] at hlate
      exact absurd hlate (by decide)

end Timed

end Rescan.Debounce
