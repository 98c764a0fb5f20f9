import Rescan.Proofs.Debounce.Lifecycle

/-! # The attribution and the ticks of the loop

The loop of a debouncer is started with an attribution and a ticker and keeps both, the ticker
with its interval. Whatever the loop hands over in a whole run is attributed as the one start that
succeeded said.
-/

namespace Rescan.Debounce

open Rescan.Telemetry (Meter)
open Rescan.Topology (Registry Target)

/-- The attribution of the drains of a loop that is under way. -/
def Loop.attribution? : Loop → Option Attribution
  | .absent | .ended => none
  | .idle attribution _ => some attribution
  | .draining _ drain => some drain.attribution

/-- The ticker of a loop that is under way. -/
def Loop.ticker? : Loop → Option Ticker
  | .absent | .ended => none
  | .idle _ ticker | .draining ticker _ => some ticker

/-- The ticker whose tick the loop waits for. -/
def Loop.awaited? : Loop → Option Ticker
  | .idle _ ticker => some ticker
  | .absent | .draining _ _ | .ended => none

/-- The ticker of a loop that carries out a drain. -/
def Loop.busy? : Loop → Option Ticker
  | .draining ticker _ => some ticker
  | .absent | .idle _ _ | .ended => none

theorem Loop.ticker?_eq (loop : Loop) : loop.ticker? = loop.awaited?.or loop.busy? := by
  cases loop <;> rfl

theorem Ticker.fire_interval (ticker : Ticker) (now : Nat) :
    (ticker.fire now).interval = ticker.interval := by
  unfold fire
  split <;> rfl

namespace Debouncer

theorem loop_setDrain {debouncer : Debouncer} {drain : Drain} {site : Site}
    (hdrain : debouncer.drain? site = some drain) {later : Drain}
    (hlater : later.attribution = drain.attribution) :
    (debouncer.setDrain later site).loop.attribution? = debouncer.loop.attribution? ∧
      (debouncer.setDrain later site).loop.awaited? = debouncer.loop.awaited? ∧
      (debouncer.setDrain later site).loop.busy? = debouncer.loop.busy? := by
  cases site with
  | call index => exact ⟨rfl, rfl, rfl⟩
  | loop =>
      cases hloop : debouncer.loop <;>
        simp_all [drain?, setDrain, Loop.attribution?, Loop.awaited?, Loop.busy?]

theorem loop_advance (debouncer : Debouncer) (number : Nat) (stage : Stage) :
    (debouncer.advance number stage).loop.attribution? = debouncer.loop.attribution? ∧
      (debouncer.advance number stage).loop.awaited? = debouncer.loop.awaited? ∧
      (debouncer.advance number stage).loop.busy? = debouncer.loop.busy? := by
  cases hloop : debouncer.loop <;>
    simp [advance, hloop, Loop.attribution?, Loop.awaited?, Loop.busy?, Drain.advance]

/-- What a move makes of the loop: it stays at what it is at, is started or ended, begins a drain or
ends one. -/
inductive LoopChange (debouncer : Debouncer) (move : Move) : Prop where
  | kept (hattribution : (debouncer.step move).loop.attribution? = debouncer.loop.attribution?)
      (hawaited : (debouncer.step move).loop.awaited? = debouncer.loop.awaited?)
      (hbusy : (debouncer.step move).loop.busy? = debouncer.loop.busy?)
  | opened (now : Nat) (attribution : Attribution) (hopened : debouncer.opened move = [attribution])
      (hloop : (debouncer.step move).loop =
        .idle attribution (Ticker.starting now debouncer.settings.tickIntervalMs))
  | ended (hcancelled : debouncer.cancelled = true) (hloop : (debouncer.step move).loop = .ended)
  | began {attribution : Attribution} {ticker : Ticker} {now : Nat} (hmove : move = .tick now)
      (hbefore : debouncer.loop = .idle attribution ticker) (hdue : ticker.due ≤ now)
      (hloop : (debouncer.step move).loop =
        .draining (ticker.fire now) (debouncer.take attribution).2)
  | closed {ticker : Ticker} {drain : Drain} (hbefore : debouncer.loop = .draining ticker drain)
      (hloop : (debouncer.step move).loop = .idle drain.attribution ticker)

section Kept

variable {debouncer other : Debouncer} {move : Move}

theorem LoopChange.of_kept (hloop : (debouncer.step move).loop = other.loop)
    (hkept : other.loop.attribution? = debouncer.loop.attribution? ∧
      other.loop.awaited? = debouncer.loop.awaited? ∧ other.loop.busy? = debouncer.loop.busy?) :
    debouncer.LoopChange move := by
  obtain ⟨hattribution, hawaited, hbusy⟩ := hkept
  rw [← hloop] at hattribution hawaited hbusy
  exact .kept hattribution hawaited hbusy

theorem LoopChange.same (hloop : (debouncer.step move).loop = debouncer.loop) :
    debouncer.LoopChange move := .of_kept hloop ⟨rfl, rfl, rfl⟩

theorem Turn.loopChange {dispatch : Dispatch} {stage : Stage}
    (hturn : Turn debouncer move dispatch stage) : debouncer.LoopChange move :=
  .of_kept (congrArg Debouncer.loop hturn.step_eq) (loop_advance ..)

end Kept

theorem loop_change (debouncer : Debouncer) (move : Move) : debouncer.LoopChange move := by
  cases move with
  | start now attribution =>
      rcases debouncer.start_cases now attribution with
        ⟨_, _, h⟩ | ⟨_, _, h⟩ | ⟨_, _, started, h⟩
      · exact .same (by simp only [step, h])
      · exact .same (by simp only [step, h])
      · refine .opened now attribution (by simp only [opened, h]) ?_
        simp only [step, h]
        rw [(start_eq_ok h).2.2.2.1]
  | heed =>
      rcases debouncer.heed_cases with h | ⟨hcancelled, _, h⟩
      · exact .same (by rw [step, h])
      · exact .ended hcancelled (by rw [step, h]; rfl)
  | tick now =>
      rcases debouncer.tick_cases now with h | ⟨attribution, ticker, hloop, hdue, h⟩
      · exact .same (by rw [step, h])
      · exact .began rfl hloop hdue (by rw [step, h])
  | poll site =>
      rcases debouncer.poll_cases site with h | ⟨drain, hdrain, h⟩
      · exact .same (by rw [step, h])
      · refine .of_kept (congrArg Debouncer.loop h) (loop_setDrain hdrain ?_)
        rfl
  | closeLoop =>
      rcases debouncer.closeLoop_cases with h | ⟨ticker, drain, hloop, _, h⟩
      · exact .same (by rw [step, h])
      · exact .closed hloop (by rw [step, h])
  | closeCall index =>
      rcases debouncer.closeCall_cases index with h | ⟨_, _, _, h⟩ <;>
        exact .same (by rw [step, h])
  | abandonCall index =>
      rcases debouncer.abandonCall_cases index with ⟨_, h⟩ | ⟨_, _, h⟩ <;>
        exact .same (by rw [step, h])
  | send dispatch =>
      rcases debouncer.send_cases dispatch with ⟨_, hturn⟩ | ⟨h, _⟩
      · exact hturn.loopChange
      · exact .same (by rw [h])
  | land dispatch outcome =>
      rcases debouncer.land_cases dispatch outcome with hturn | h
      · exact hturn.loopChange
      · exact .same (by rw [h])
  | _ => exact .same rfl

/-- A loop keeps its attribution from its start to its end. -/
theorem attribution?_step (debouncer : Debouncer) (move : Move) :
    (debouncer.step move).loop.attribution? = debouncer.loop.attribution? ∨
      (debouncer.step move).loop.attribution? = none ∨
      ∃ attribution, debouncer.opened move = [attribution] ∧
        (debouncer.step move).loop.attribution? = some attribution := by
  cases debouncer.loop_change move with
  | kept hattribution => exact Or.inl hattribution
  | opened now attribution hopened hloop =>
      exact Or.inr (Or.inr ⟨attribution, hopened, by rw [hloop]; rfl⟩)
  | ended _ hloop => exact Or.inr (Or.inl (by rw [hloop]; rfl))
  | began _ hbefore _ hloop => exact Or.inl (by rw [hbefore, hloop]; rfl)
  | closed hbefore hloop => exact Or.inl (by rw [hbefore, hloop]; rfl)

/-- Settings fix how far apart the ticks of the loop are. -/
theorem ticker_interval_run {debouncer : Debouncer} (hloop : debouncer.loop = .absent)
    (moves : List Move) {ticker : Ticker}
    (hticker : (debouncer.run moves).loop.ticker? = some ticker) :
    ticker.interval = debouncer.settings.tickIntervalMs := by
  induction moves using List.reverseRecOn generalizing ticker with
  | nil => simp [hloop, Loop.ticker?] at hticker
  | append_singleton moves move ih =>
      simp only [Steps.run_append, Steps.run_cons, Steps.run_nil] at hticker
      cases (debouncer.run moves).loop_change move with
      | kept _ hawaited hbusy =>
          rw [Loop.ticker?_eq, hawaited, hbusy, ← Loop.ticker?_eq] at hticker
          exact ih hticker
      | opened now attribution _ hopened =>
          rw [hopened] at hticker
          cases hticker
          exact congrArg Settings.Debouncer.tickIntervalMs (debouncer.run_settings moves)
      | ended _ hended =>
          rw [hended] at hticker
          cases hticker
      | @began _ earlier now _ hbefore _ hbegan =>
          rw [hbegan] at hticker
          cases hticker
          exact (earlier.fire_interval now).trans (ih (by rw [hbefore]; rfl))
      | closed hbefore hclosed =>
          rw [hclosed] at hticker
          exact ih (by rw [hbefore]; exact hticker)

/-- The attribution of the loop is that of a start that succeeded. -/
theorem mem_opened_of_attribution? {debouncer : Debouncer} (hloop : debouncer.loop = .absent)
    (moves : List Move) {attribution : Attribution}
    (hattribution : (debouncer.run moves).loop.attribution? = some attribution) :
    attribution ∈ debouncer.history opened moves := by
  induction moves using List.reverseRecOn with
  | nil => simp [hloop, Loop.attribution?] at hattribution
  | append_singleton moves move ih =>
      simp only [Steps.run_append, Steps.run_cons, Steps.run_nil] at hattribution
      simp only [Steps.history_append, Steps.history_cons, Steps.history_nil, List.append_nil,
        List.mem_append]
      rcases (debouncer.run moves).attribution?_step move with h | h | ⟨opened, hopened, h⟩
      · exact Or.inl (ih (h ▸ hattribution))
      · rw [h] at hattribution
        cases hattribution
      · rw [h] at hattribution
        cases hattribution
        exact Or.inr (by simp [hopened])

/-! ## What the loop launches and hands over -/

/-- The dispatches that the loop launches in a move. -/
def launchedByLoop (debouncer : Debouncer) : Move → List Dispatch
  | .poll .loop => debouncer.launched (.poll .loop)
  | _ => []

theorem attribution_of_mem_fresh {drain : Drain} {limit first : Nat} {dispatch : Dispatch}
    (hmem : dispatch ∈ drain.fresh limit first) : dispatch.attribution = drain.attribution := by
  obtain ⟨_, _, rfl⟩ := List.mem_map.mp hmem
  rfl

theorem attribution?_of_mem_launchedByLoop {debouncer : Debouncer} (hsound : debouncer.Sound)
    {move : Move} {dispatch : Dispatch} (hmem : dispatch ∈ debouncer.launchedByLoop move) :
    debouncer.loop.attribution? = some dispatch.attribution := by
  unfold launchedByLoop at hmem
  split at hmem
  · rcases debouncer.poll_cases .loop with h | ⟨drain, hdrain, h⟩
    · rw [launched_eq_nil hsound (by rw [step, h])] at hmem
      cases hmem
    · cases hloop : debouncer.loop with
      | draining ticker drained =>
          obtain rfl : drained = drain := by simpa [drain?, hloop] using hdrain
          have hbefore : debouncer.drains = [] ++ drained :: debouncer.calls := by
            simp [drains, drain?, hloop]
          rw [launched_of_polled hsound hbefore] at hmem
          · rw [attribution_of_mem_fresh hmem]
            rfl
          · rw [step, h]
            simp [drains, drain?, setDrain, hloop]
          · rw [step, h]
            simp [setDrain, hloop]
      | _ => simp [drain?, hloop] at hdrain
  · cases hmem

/-- Whatever is handed over carries the attribution of its dispatch. -/
theorem request_of_mem_handed {debouncer : Debouncer} {move : Move}
    {entry : Dispatch × Target × Delivery.Request} (hmem : entry ∈ debouncer.handed move) :
    entry.2.2 = entry.1.request := by
  have hsend := (mem_handed hmem).2.2.2
  unfold send at hsend
  split at hsend
  · cases hsend
  · exact (congrArg Prod.snd (Option.some.inj hsend)).symm

/-- Every dispatch that the loop launches in a run is attributed as a start that succeeded said. -/
theorem attribution_mem_opened {debouncer : Debouncer} (hsound : debouncer.Sound)
    (hloop : debouncer.loop = .absent) {moves : List Move} {dispatch : Dispatch}
    (hmem : dispatch ∈ debouncer.history launchedByLoop moves) :
    dispatch.attribution ∈ debouncer.history opened moves := by
  obtain ⟨first, move, last, rfl, hlaunched⟩ := Steps.exists_of_mem_history hmem
  simp only [Steps.history_append]
  exact List.mem_append_left _ (mem_opened_of_attribution? hloop first
    (attribution?_of_mem_launchedByLoop (hsound.run first) hlaunched))

end Debouncer

end Rescan.Debounce
