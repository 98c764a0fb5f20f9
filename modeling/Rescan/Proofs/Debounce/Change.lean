import Rescan.Proofs.Debounce.Run

/-! # What a move changes

A move of a debouncer changes its pending keys, its unfinished drains and its dispatches in one
of eight ways. What holds all along a run is read off these ways.
-/

namespace Rescan.Debounce

open Rescan.Resource (Key)
open Rescan.Topology (Target)

/-- The phase of a debouncer with this loop. -/
def Loop.phase : Loop → Phase
  | .absent => .uninitialized
  | .idle _ _ | .draining _ _ => .running
  | .ended => .stopped

theorem Loop.eq_absent_of_phase {loop : Loop} (hphase : loop.phase = .uninitialized) :
    loop = .absent := by
  cases loop <;> first | rfl | cases hphase

namespace Debouncer

/-! ## What each operation does -/

section Operations

variable {debouncer started : Debouncer} {now : Nat} {attribution : Attribution}

/-- A start that succeeds finds settings that pass their check and an uninitialized debouncer; it
changes the phase and the loop alone. -/
theorem start_eq_ok (h : debouncer.start now attribution = .ok started) :
    debouncer.settings.check = .ok () ∧ debouncer.queue.phase = .uninitialized ∧
      started.queue.phase = .running ∧
      started = { debouncer with
        queue := started.queue
        loop := .idle attribution (Ticker.starting now debouncer.settings.tickIntervalMs) } ∧
      started.queue.keys = debouncer.queue.keys := by
  unfold start at h
  split at h
  · cases h
  next hcheck =>
    split at h
    · cases h
    next queue hqueue =>
      cases h
      unfold Queue.start at hqueue
      split at hqueue
      next hphase =>
        cases hqueue
        exact ⟨hcheck, hphase, rfl, rfl, rfl⟩
      · cases hqueue

theorem heed_cases (debouncer : Debouncer) :
    debouncer.heed = debouncer ∨
      debouncer.cancelled ∧ debouncer.loop.phase = .running ∧ debouncer.heed = debouncer.stop := by
  unfold heed
  split
  case h_3 => left; rfl
  case h_4 => left; rfl
  all_goals
    next hloop =>
      split
      next hcancelled => exact Or.inr ⟨hcancelled, by rw [hloop]; rfl, rfl⟩
      · exact Or.inl rfl

theorem heed_of_not_cancelled {debouncer : Debouncer} (hcancelled : debouncer.cancelled = false) :
    debouncer.heed = debouncer := by
  rcases debouncer.heed_cases with h | ⟨h, _⟩
  · exact h
  · cases hcancelled.symm.trans h

theorem tick_cases (debouncer : Debouncer) (now : Nat) :
    debouncer.tick now = debouncer ∨
      ∃ attribution ticker, debouncer.loop = .idle attribution ticker ∧ ticker.due ≤ now ∧
        debouncer.tick now = { (debouncer.take attribution).1 with
          loop := .draining (ticker.fire now) (debouncer.take attribution).2 } := by
  unfold tick
  split
  next attribution ticker hloop =>
    split
    next hdue => exact Or.inr ⟨attribution, ticker, hloop, hdue, rfl⟩
    · exact Or.inl rfl
  all_goals exact Or.inl rfl

theorem poll_cases (debouncer : Debouncer) (site : Site) :
    debouncer.poll site = debouncer ∨
      ∃ drain, debouncer.drain? site = some drain ∧
        debouncer.poll site =
          { debouncer.setDrain (drain.collect.launch debouncer.settings.maxConcurrentDispatches
              debouncer.launches) site with
            launches := debouncer.launches +
              drain.collect.room debouncer.settings.maxConcurrentDispatches } := by
  unfold poll
  split
  · exact Or.inl rfl
  next drain hdrain => exact Or.inr ⟨drain, hdrain, rfl⟩

theorem closeLoop_cases (debouncer : Debouncer) :
    debouncer.closeLoop = debouncer ∨
      ∃ ticker drain, debouncer.loop = .draining ticker drain ∧ drain.isComplete ∧
        debouncer.closeLoop = { debouncer with
          loop := .idle drain.attribution ticker
          meter := debouncer.meter.countReport drain.report } := by
  unfold closeLoop
  split
  next ticker drain hloop =>
    split
    next hcomplete => exact Or.inr ⟨ticker, drain, hloop, hcomplete, rfl⟩
    · exact Or.inl rfl
  all_goals exact Or.inl rfl

theorem closeCall_cases (debouncer : Debouncer) (index : Nat) :
    (debouncer.closeCall index).1 = debouncer ∨
      ∃ drain, debouncer.calls[index]? = some drain ∧ drain.isComplete ∧
        (debouncer.closeCall index).1 = { debouncer with
          calls := debouncer.calls.eraseIdx index
          meter := debouncer.meter.countReport drain.report } := by
  unfold closeCall
  split
  · exact Or.inl rfl
  next drain hdrain =>
    split
    next hcomplete => exact Or.inr ⟨drain, hdrain, hcomplete, rfl⟩
    · exact Or.inl rfl

theorem abandonCall_cases (debouncer : Debouncer) (index : Nat) :
    debouncer.calls[index]? = none ∧ debouncer.abandonCall index = debouncer ∨
      ∃ drain, debouncer.calls[index]? = some drain ∧
        debouncer.abandonCall index = { debouncer with
          calls := debouncer.calls.eraseIdx index
          strays := debouncer.strays ++ drain.dispatches } := by
  unfold abandonCall
  split
  next hnone => exact Or.inl ⟨hnone, rfl⟩
  next drain hdrain => exact Or.inr ⟨drain, hdrain, rfl⟩

theorem send_eq_advance (debouncer : Debouncer) (dispatch : Dispatch) :
    ∃ stage, stage ≠ .launched ∧
      (debouncer.send dispatch).1 = debouncer.advance dispatch.number stage := by
  unfold send
  split
  · exact ⟨.ended .noTarget, by simp, rfl⟩
  · exact ⟨.sent, by simp, rfl⟩

end Operations

/-! ## The frame and the phase -/

theorem setDrain_frame (debouncer : Debouncer) (drain : Drain) (site : Site) :
    (debouncer.setDrain drain site).settings = debouncer.settings ∧
      (debouncer.setDrain drain site).cancelled = debouncer.cancelled ∧
      (debouncer.setDrain drain site).registry = debouncer.registry := by
  unfold setDrain
  split
  · split <;> exact ⟨rfl, rfl, rfl⟩
  · exact ⟨rfl, rfl, rfl⟩

/-- A move never touches the settings, only a request to end the loop is kept as one, and only an
edit changes the registry. -/
theorem step_frame (debouncer : Debouncer) (move : Move) :
    (debouncer.step move).settings = debouncer.settings ∧
      (debouncer.step move).cancelled = (debouncer.cancelled || move = .cancel) ∧
      ((∀ change, move ≠ .edit change) → (debouncer.step move).registry = debouncer.registry) := by
  by_cases hcancel : move = .cancel
  · subst move
    exact ⟨rfl, by simp [step, cancel], fun _ => rfl⟩
  simp only [hcancel, decide_false, Bool.or_false]
  cases move with
  | add key => exact ⟨rfl, rfl, fun _ => rfl⟩
  | edit change => exact ⟨rfl, rfl, fun hmove => absurd rfl (hmove change)⟩
  | start now attribution =>
      simp only [step]
      split
      next started hstart =>
        rw [(start_eq_ok hstart).2.2.2.1]
        exact ⟨rfl, rfl, fun _ => rfl⟩
      · exact ⟨rfl, rfl, fun _ => rfl⟩
  | cancel => exact absurd rfl hcancel
  | heed =>
      rcases debouncer.heed_cases with h | ⟨_, _, h⟩ <;> rw [step, h] <;>
        exact ⟨rfl, rfl, fun _ => rfl⟩
  | tick now =>
      rcases debouncer.tick_cases now with h | ⟨_, _, _, _, h⟩ <;> rw [step, h] <;>
        exact ⟨rfl, rfl, fun _ => rfl⟩
  | call attribution => exact ⟨rfl, rfl, fun _ => rfl⟩
  | poll site =>
      rcases debouncer.poll_cases site with h | ⟨_, _, h⟩
      · rw [step, h]
        exact ⟨rfl, rfl, fun _ => rfl⟩
      · rw [step, h]
        obtain ⟨hsettings, hcancelled, hregistry⟩ := debouncer.setDrain_frame _ site
        exact ⟨hsettings, hcancelled, fun _ => hregistry⟩
  | closeLoop =>
      rcases debouncer.closeLoop_cases with h | ⟨_, _, _, _, h⟩ <;> rw [step, h] <;>
        exact ⟨rfl, rfl, fun _ => rfl⟩
  | closeCall index =>
      rcases debouncer.closeCall_cases index with h | ⟨_, _, _, h⟩ <;> rw [step, h] <;>
        exact ⟨rfl, rfl, fun _ => rfl⟩
  | abandonCall index =>
      rcases debouncer.abandonCall_cases index with ⟨_, h⟩ | ⟨_, _, h⟩ <;> rw [step, h] <;>
        exact ⟨rfl, rfl, fun _ => rfl⟩
  | send dispatch =>
      obtain ⟨stage, _, h⟩ := debouncer.send_eq_advance dispatch
      simp only [step, h]
      split <;> exact ⟨rfl, rfl, fun _ => rfl⟩
  | land dispatch outcome =>
      simp only [step]
      split <;> exact ⟨rfl, rfl, fun _ => rfl⟩

@[simp] theorem step_settings (debouncer : Debouncer) (move : Move) :
    (debouncer.step move).settings = debouncer.settings := (debouncer.step_frame move).1

@[simp] theorem run_settings (debouncer : Debouncer) (moves : List Move) :
    (debouncer.run moves).settings = debouncer.settings :=
  Steps.run_induction (P := fun other : Debouncer => other.settings = debouncer.settings) rfl
    fun _ move _ h => (step_settings _ move).trans h

theorem step_cancelled (debouncer : Debouncer) (move : Move) :
    (debouncer.step move).cancelled = (debouncer.cancelled || move = .cancel) :=
  (debouncer.step_frame move).2.1

theorem step_registry (debouncer : Debouncer) {move : Move}
    (hmove : ∀ change, move ≠ .edit change) :
    (debouncer.step move).registry = debouncer.registry := (debouncer.step_frame move).2.2 hmove

/-- A request to end the loop stands for ever. -/
theorem run_cancelled {debouncer : Debouncer} (hcancelled : debouncer.cancelled = true)
    (moves : List Move) : (debouncer.run moves).cancelled = true :=
  Steps.run_induction (P := fun other : Debouncer => other.cancelled = true) hcancelled
    fun _ move _ h => by rw [step_cancelled, h, Bool.true_or]

theorem setDrain_loop_phase (debouncer : Debouncer) (drain : Drain) (site : Site) :
    (debouncer.setDrain drain site).loop.phase = debouncer.loop.phase := by
  unfold setDrain
  split
  · split
    next hloop => rw [hloop]; rfl
    all_goals rfl
  · rfl

theorem setDrain_queue (debouncer : Debouncer) (drain : Drain) (site : Site) :
    (debouncer.setDrain drain site).queue = debouncer.queue := by
  unfold setDrain
  split
  · split <;> rfl
  · rfl

theorem setDrain_meter (debouncer : Debouncer) (drain : Drain) (site : Site) :
    (debouncer.setDrain drain site).meter = debouncer.meter := by
  unfold setDrain
  split
  · split <;> rfl
  · rfl

theorem advance_loop_phase (debouncer : Debouncer) (number : Nat) (stage : Stage) :
    (debouncer.advance number stage).loop.phase = debouncer.loop.phase := by
  cases hloop : debouncer.loop with
  | draining ticker drain =>
      simp only [advance, hloop]
      rfl
  | _ => simp only [advance, hloop]

theorem add_queue_phase (debouncer : Debouncer) (key : Key) :
    (debouncer.add key).1.queue.phase = debouncer.queue.phase := by
  simp only [add, Queue.add]
  split
  · rfl
  · split <;> rfl

/-- A move keeps the phase and fits the loop to it, unless it starts the debouncer or ends the
loop. -/
theorem step_phase_cases (debouncer : Debouncer) (move : Move) :
    ((debouncer.step move).queue.phase = debouncer.queue.phase ∧
      (debouncer.step move).loop.phase = debouncer.loop.phase) ∨
    (debouncer.settings.check = .ok () ∧ debouncer.queue.phase = .uninitialized ∧
      (debouncer.step move).queue.phase = .running ∧
      (debouncer.step move).loop.phase = .running ∧
      ∃ now attribution, move = .start now attribution ∧
        debouncer.start now attribution = .ok (debouncer.step move)) ∨
    (move = .heed ∧ debouncer.cancelled ∧ debouncer.loop.phase = .running ∧
      debouncer.step move = debouncer.stop) := by
  cases move with
  | add key => exact Or.inl ⟨debouncer.add_queue_phase key, rfl⟩
  | edit change => exact Or.inl ⟨rfl, rfl⟩
  | start now attribution =>
      simp only [step]
      split
      next started hstart =>
        obtain ⟨hcheck, huninitialized, hrunning, hstarted, _⟩ := start_eq_ok hstart
        refine Or.inr (Or.inl ⟨hcheck, huninitialized, hrunning, ?_, now, attribution, rfl,
          hstart⟩)
        rw [hstarted]
        rfl
      · exact Or.inl ⟨rfl, rfl⟩
  | cancel => exact Or.inl ⟨rfl, rfl⟩
  | heed =>
      rcases debouncer.heed_cases with h | ⟨hcancelled, hrunning, h⟩
      · rw [step, h]
        exact Or.inl ⟨rfl, rfl⟩
      · exact Or.inr (Or.inr ⟨rfl, hcancelled, hrunning, h⟩)
  | tick now =>
      rcases debouncer.tick_cases now with h | ⟨_, _, hloop, _, h⟩
      · rw [step, h]
        exact Or.inl ⟨rfl, rfl⟩
      · rw [step, h, hloop]
        exact Or.inl ⟨rfl, rfl⟩
  | call attribution => exact Or.inl ⟨rfl, rfl⟩
  | poll site =>
      rcases debouncer.poll_cases site with h | ⟨_, _, h⟩
      · rw [step, h]
        exact Or.inl ⟨rfl, rfl⟩
      · rw [step, h]
        exact Or.inl ⟨congrArg Queue.phase (setDrain_queue ..), setDrain_loop_phase ..⟩
  | closeLoop =>
      rcases debouncer.closeLoop_cases with h | ⟨_, _, hloop, _, h⟩
      · rw [step, h]
        exact Or.inl ⟨rfl, rfl⟩
      · rw [step, h, hloop]
        exact Or.inl ⟨rfl, rfl⟩
  | closeCall index =>
      rcases debouncer.closeCall_cases index with h | ⟨_, _, _, h⟩ <;> rw [step, h] <;>
        exact Or.inl ⟨rfl, rfl⟩
  | abandonCall index =>
      rcases debouncer.abandonCall_cases index with ⟨_, h⟩ | ⟨_, _, h⟩ <;> rw [step, h] <;>
        exact Or.inl ⟨rfl, rfl⟩
  | send dispatch =>
      obtain ⟨stage, _, h⟩ := debouncer.send_eq_advance dispatch
      simp only [step, h]
      split
      · exact Or.inl ⟨rfl, debouncer.advance_loop_phase _ _⟩
      · exact Or.inl ⟨rfl, rfl⟩
  | land dispatch outcome =>
      simp only [step]
      split
      · exact Or.inl ⟨rfl, debouncer.advance_loop_phase _ _⟩
      · exact Or.inl ⟨rfl, rfl⟩

/-- The phase is always the one of the loop. -/
theorem step_phase (debouncer : Debouncer) (move : Move)
    (hphase : debouncer.queue.phase = debouncer.loop.phase) :
    (debouncer.step move).queue.phase = (debouncer.step move).loop.phase := by
  rcases debouncer.step_phase_cases move with
    ⟨hqueue, hloop⟩ | ⟨_, _, hqueue, hloop, _⟩ | ⟨_, _, _, h⟩
  · rw [hqueue, hloop, hphase]
  · rw [hqueue, hloop]
  · rw [h]
    rfl

/-! ## The drains and the dispatches -/

theorem dispatches_eq (debouncer : Debouncer) :
    debouncer.dispatches = debouncer.drains.flatMap Drain.dispatches ++ debouncer.strays := rfl

/-- A move by which no key is accepted or discarded and no drain begins. -/
structure Quiet (debouncer : Debouncer) (move : Move) : Prop where
  accepted_eq : debouncer.accepted move = []
  discarded_eq : debouncer.discarded move = []
  begun_eq : debouncer.begun move = []

/-- What a move brings a dispatch to: when its turn comes the dispatch is sent to its target, or it
ends for want of one, and once it was sent its delivery ends. -/
inductive Turn (debouncer : Debouncer) : Move → Dispatch → Stage → Prop where
  | sent (dispatch : Dispatch) (target : Target) (hmem : dispatch ∈ debouncer.dispatches)
      (hlaunched : dispatch.stage = .launched)
      (hlookup : debouncer.registry.lookup dispatch.key.ns = some target) :
      Turn debouncer (.send dispatch) dispatch .sent
  | missed (dispatch : Dispatch) (hmem : dispatch ∈ debouncer.dispatches)
      (hlaunched : dispatch.stage = .launched)
      (hlookup : debouncer.registry.lookup dispatch.key.ns = none) :
      Turn debouncer (.send dispatch) dispatch (.ended .noTarget)
  | landed (dispatch : Dispatch) (outcome : Outcome) (hmem : dispatch ∈ debouncer.dispatches)
      (hsent : dispatch.stage = .sent) (houtcome : outcome ≠ .noTarget) :
      Turn debouncer (.land dispatch outcome) dispatch (.ended outcome)

theorem Turn.stage_ne {debouncer : Debouncer} {move : Move} {dispatch : Dispatch} {stage : Stage}
    (hturn : Turn debouncer move dispatch stage) : stage ≠ .launched := by
  cases hturn <;> simp

theorem Turn.step_eq {debouncer : Debouncer} {move : Move} {dispatch : Dispatch} {stage : Stage}
    (hturn : Turn debouncer move dispatch stage) :
    debouncer.step move = debouncer.advance dispatch.number stage := by
  cases hturn with
  | sent _ target hmem hlaunched hlookup =>
      rw [step, if_pos ⟨hmem, hlaunched⟩, send, hlookup]
  | missed _ hmem hlaunched hlookup =>
      rw [step, if_pos ⟨hmem, hlaunched⟩, send, hlookup]
  | landed _ outcome hmem hsent houtcome =>
      rw [step, if_pos ⟨hmem, hsent, houtcome⟩, land]

/-- A dispatch that is sent has its turn, or nothing happens. -/
theorem send_cases (debouncer : Debouncer) (dispatch : Dispatch) :
    (∃ stage, Turn debouncer (.send dispatch) dispatch stage) ∨
      debouncer.step (.send dispatch) = debouncer ∧ debouncer.handed (.send dispatch) = [] := by
  by_cases hguard : dispatch ∈ debouncer.dispatches ∧ dispatch.stage = .launched
  · left
    cases hlookup : debouncer.registry.lookup dispatch.key.ns with
    | none => exact ⟨_, .missed dispatch hguard.1 hguard.2 hlookup⟩
    | some target => exact ⟨_, .sent dispatch target hguard.1 hguard.2 hlookup⟩
  · exact Or.inr ⟨by rw [step, if_neg hguard], by rw [handed, if_neg hguard]⟩

/-- A delivery ends that was under way, or nothing happens. -/
theorem land_cases (debouncer : Debouncer) (dispatch : Dispatch) (outcome : Outcome) :
    Turn debouncer (.land dispatch outcome) dispatch (.ended outcome) ∨
      debouncer.step (.land dispatch outcome) = debouncer := by
  by_cases hguard : dispatch ∈ debouncer.dispatches ∧ dispatch.stage = .sent ∧
      outcome ≠ .noTarget
  · exact Or.inl (.landed dispatch outcome hguard.1 hguard.2.1 hguard.2.2)
  · exact Or.inr (by rw [step, if_neg hguard])

/-- What a move changes about the pending keys, the drains and the dispatches. -/
inductive Change (before : Debouncer) (move : Move) (after : Debouncer) : Prop where
  /-- Nothing of all that changes. -/
  | kept (hquiet : before.Quiet move) (hkeys : after.queue.keys = before.queue.keys)
      (hdrains : after.drains = before.drains) (hstrays : after.strays = before.strays)
      (hlaunches : after.launches = before.launches)
  /-- A key is newly pending. -/
  | queued (key : Key) (haccepted : before.accepted move = [key])
      (hdiscarded : before.discarded move = []) (hbegun : before.begun move = [])
      (hkeys : after.queue.keys = before.queue.keys ++ [key])
      (hdrains : after.drains = before.drains) (hstrays : after.strays = before.strays)
      (hlaunches : after.launches = before.launches)
  /-- A drain takes all pending keys. -/
  | began (attribution : Attribution) (first last : List Drain)
      (haccepted : before.accepted move = []) (hdiscarded : before.discarded move = [])
      (hbegun : before.begun move = [before.queue.keys]) (hkeys : after.queue.keys = [])
      (hbefore : before.drains = first ++ last)
      (hafter : after.drains = first ++ .ofKeys attribution before.queue.keys :: last)
      (hstrays : after.strays = before.strays) (hlaunches : after.launches = before.launches)
  /-- A drain collects outcomes and launches dispatches. -/
  | polled (drain : Drain) (first last : List Drain) (hquiet : before.Quiet move)
      (hkeys : after.queue.keys = before.queue.keys)
      (hbefore : before.drains = first ++ drain :: last)
      (hafter : after.drains = first ++ drain.collect.launch
        before.settings.maxConcurrentDispatches before.launches :: last)
      (hstrays : after.strays = before.strays)
      (hlaunches : after.launches = before.launches +
        drain.collect.room before.settings.maxConcurrentDispatches)
  /-- A complete drain closes. -/
  | closed (drain : Drain) (first last : List Drain) (hquiet : before.Quiet move)
      (hcomplete : drain.isComplete) (hkeys : after.queue.keys = before.queue.keys)
      (hbefore : before.drains = first ++ drain :: last) (hafter : after.drains = first ++ last)
      (hstrays : after.strays = before.strays) (hlaunches : after.launches = before.launches)
  /-- A drain is given up. -/
  | abandoned (drain : Drain) (first last : List Drain) (haccepted : before.accepted move = [])
      (hdiscarded : before.discarded move = drain.waiting) (hbegun : before.begun move = [])
      (hkeys : after.queue.keys = before.queue.keys)
      (hbefore : before.drains = first ++ drain :: last) (hafter : after.drains = first ++ last)
      (hstrays : after.strays = before.strays ++ drain.dispatches)
      (hlaunches : after.launches = before.launches)
  /-- The loop ends. -/
  | stopped (given : Option Drain) (haccepted : before.accepted move = [])
      (hdiscarded : before.discarded move =
        before.queue.keys ++ given.toList.flatMap Drain.waiting)
      (hbegun : before.begun move = []) (hkeys : after.queue.keys = [])
      (hdrains : before.drains = given.toList ++ after.drains)
      (hstrays : after.strays = before.strays ++ given.toList.flatMap Drain.dispatches)
      (hlaunches : after.launches = before.launches)
  /-- A dispatch moves on. -/
  | advanced (number : Nat) (stage : Stage) (hstage : stage ≠ .launched)
      (hquiet : before.Quiet move) (hkeys : after.queue.keys = before.queue.keys)
      (hdrains : after.drains = before.drains.map (Drain.advance number stage))
      (hstrays : after.strays =
        (before.strays.map (Dispatch.advance number stage)).filter Dispatch.isUnfinished)
      (hlaunches : after.launches = before.launches)
      (hturn : ∃ dispatch, dispatch.number = number ∧ Turn before move dispatch stage)

theorem advance_drains (debouncer : Debouncer) (number : Nat) (stage : Stage) :
    (debouncer.advance number stage).drains =
      debouncer.drains.map (Drain.advance number stage) := by
  cases hloop : debouncer.loop <;> simp [drains, drain?, advance, hloop]

theorem split_getElem? {α : Type} {list : List α} {index : Nat} {a : α}
    (h : list[index]? = some a) :
    ∃ first last, list = first ++ a :: last ∧ list.eraseIdx index = first ++ last ∧
      ∀ b, list.set index b = first ++ b :: last := by
  obtain ⟨hindex, rfl⟩ := List.getElem?_eq_some_iff.mp h
  refine ⟨list.take index, list.drop (index + 1), ?_, List.eraseIdx_eq_take_drop_succ list index,
    fun b => ?_⟩
  · rw [← List.drop_eq_getElem_cons hindex, List.take_append_drop]
  · rw [List.set_eq_take_append_cons_drop, if_pos hindex]

/-- A move that changes nothing at all. -/
theorem Change.same {debouncer : Debouncer} {move : Move} (hquiet : debouncer.Quiet move) :
    Change debouncer move debouncer := .kept hquiet rfl rfl rfl rfl

/-- A move that only touches what drains and keys do not depend on. -/
theorem Change.of_eq {before after : Debouncer} {move : Move} (hquiet : before.Quiet move)
    (hkeys : after.queue.keys = before.queue.keys) (hloop : after.loop = before.loop)
    (hcalls : after.calls = before.calls) (hstrays : after.strays = before.strays)
    (hlaunches : after.launches = before.launches) : Change before move after := by
  refine .kept hquiet hkeys ?_ hstrays hlaunches
  simp only [drains, drain?, hloop, hcalls]

theorem add_keys_of_new {debouncer : Debouncer} {key : Key} (hnew : (debouncer.add key).2 = true) :
    (debouncer.add key).1.queue.keys = debouncer.queue.keys ++ [key] := by
  simp only [add, Queue.add] at hnew ⊢
  split at hnew
  · cases hnew
  · split at hnew
    · cases hnew
    next hstopped hpending => simp only [dif_neg hstopped, dif_neg hpending]

theorem add_keys_of_not_new {debouncer : Debouncer} {key : Key}
    (hold : (debouncer.add key).2 ≠ true) :
    (debouncer.add key).1.queue.keys = debouncer.queue.keys := by
  simp only [add, Queue.add] at hold ⊢
  split at hold
  next hstopped => simp only [dif_pos hstopped]
  · split at hold
    next hstopped hpending => simp only [dif_neg hstopped, dif_pos hpending]
    · exact absurd rfl hold

/-- The answer is that a key is new just if keys are still taken in and it is not pending. -/
theorem add_new_iff (debouncer : Debouncer) (key : Key) :
    (debouncer.add key).2 = true ↔
      debouncer.queue.phase ≠ .stopped ∧ key ∉ debouncer.queue.keys := by
  simp only [add, Queue.add]
  split
  next hstopped => simp [hstopped]
  next hstopped =>
    split
    next hpending => simp [hpending]
    next hpending => simp [hstopped, hpending]

/-- Unless the debouncer is stopped an added key is pending afterwards, newly or as before. -/
theorem mem_keys_add {debouncer : Debouncer} (hphase : debouncer.queue.phase ≠ .stopped)
    (key other : Key) :
    other ∈ (debouncer.add key).1.queue.keys ↔ other ∈ debouncer.queue.keys ∨ other = key := by
  by_cases hnew : (debouncer.add key).2 = true
  · rw [add_keys_of_new hnew, List.mem_append, List.mem_singleton]
  · rw [add_keys_of_not_new hnew]
    refine (or_iff_left_of_imp ?_).symm
    rintro rfl
    refine Decidable.byContradiction fun hmem => ?_
    exact hnew ((debouncer.add_new_iff other).mpr ⟨hphase, hmem⟩)

theorem add_change (before : Debouncer) (key : Key) :
    Change before (.add key) (before.step (.add key)) := by
  simp only [step]
  by_cases hnew : (before.add key).2 = true
  · exact .queued key (by simp only [accepted, if_pos hnew]) rfl rfl (add_keys_of_new hnew)
      rfl rfl rfl
  · exact .of_eq ⟨by simp only [accepted, if_neg hnew], rfl, rfl⟩ (add_keys_of_not_new hnew)
      rfl rfl rfl rfl

theorem start_change (before : Debouncer) (now : Nat) (attribution : Attribution)
    (hphase : before.queue.phase = before.loop.phase) :
    Change before (.start now attribution) (before.step (.start now attribution)) := by
  simp only [step]
  split
  next started hstart =>
    obtain ⟨_, huninitialized, _, hstarted, hkeys⟩ := start_eq_ok hstart
    -- Before the start there is no loop, so that the new one takes no drain away.
    have habsent : before.loop = .absent :=
      Loop.eq_absent_of_phase (hphase.symm.trans huninitialized)
    refine .kept ⟨rfl, rfl, rfl⟩ hkeys ?_ ?_ ?_
    · rw [hstarted]
      simp only [drains, drain?, habsent]
    · rw [hstarted]
    · rw [hstarted]
  · exact .same ⟨rfl, rfl, rfl⟩

theorem heed_change (before : Debouncer) : Change before .heed (before.step .heed) := by
  simp only [step]
  rcases before.heed_cases with h | ⟨_, hrunning, h⟩
  · rw [h]
    exact .same ⟨rfl, by simp only [discarded, h, not_and_self, if_false], rfl⟩
  · have hended : before.loop ≠ .ended := by
      intro hended
      rw [hended] at hrunning
      cases hrunning
    refine .stopped (before.drain? .loop) rfl ?_ rfl ?_ ?_ ?_ ?_
    · simp only [discarded, h]
      exact if_pos ⟨hended, rfl⟩
    all_goals rw [h]; rfl

theorem begun_tick_of_eq {debouncer : Debouncer} {now : Nat} (h : debouncer.tick now = debouncer) :
    debouncer.begun (.tick now) = [] := by
  simp only [begun, h]
  cases debouncer.loop <;> rfl

theorem begun_tick_of_loop {debouncer : Debouncer} {now : Nat} {attribution : Attribution}
    {ticker : Ticker} (hloop : debouncer.loop = .idle attribution ticker)
    (hdue : ticker.due ≤ now) : debouncer.begun (.tick now) = [debouncer.queue.keys] := by
  simp only [begun, tick, hloop, if_pos hdue]
  rfl

theorem tick_change (before : Debouncer) (now : Nat) :
    Change before (.tick now) (before.step (.tick now)) := by
  simp only [step]
  rcases before.tick_cases now with h | ⟨attribution, ticker, hloop, hdue, h⟩
  · have hbegun := begun_tick_of_eq h
    rw [h]
    exact .same ⟨rfl, rfl, hbegun⟩
  · refine .began attribution [] before.calls rfl rfl ?_ ?_ ?_ ?_ ?_ ?_
    · exact begun_tick_of_loop hloop hdue
    · rw [h]; rfl
    · simp only [drains, drain?, hloop]; rfl
    · simp only [drains, drain?, h]; rfl
    · rw [h]; rfl
    · rw [h]; rfl

theorem call_change (before : Debouncer) (attribution : Attribution) :
    Change before (.call attribution) (before.step (.call attribution)) := by
  refine .began attribution before.drains [] rfl rfl rfl rfl ?_ ?_ rfl rfl
  · exact (List.append_nil _).symm
  · exact (List.append_assoc _ _ _).symm

/-- A site is a place among the drains. -/
theorem drains_setDrain {debouncer : Debouncer} {site : Site} {drain : Drain}
    (hdrain : debouncer.drain? site = some drain) :
    ∃ first last, debouncer.drains = first ++ drain :: last ∧
      ∀ other, (debouncer.setDrain other site).drains = first ++ other :: last := by
  cases site with
  | loop =>
      cases hloop : debouncer.loop with
      | draining ticker found =>
          simp only [drain?, hloop, Option.some.injEq] at hdrain
          subst hdrain
          refine ⟨[], debouncer.calls, ?_, fun other => ?_⟩
          · simp [drains, drain?, hloop]
          · simp [drains, drain?, setDrain, hloop]
      | absent | idle _ _ | ended => simp only [drain?, hloop, reduceCtorEq] at hdrain
  | call index =>
      obtain ⟨first, last, hcalls, _, hset⟩ := split_getElem? hdrain
      refine ⟨(debouncer.drain? .loop).toList ++ first, last, ?_, fun other => ?_⟩
      · rw [drains, hcalls, List.append_assoc]
      · simp only [drains, setDrain, hset, List.append_assoc]
        rfl

/-- The drain of a caller is one of the drains. -/
theorem drains_eraseIdx {debouncer : Debouncer} {index : Nat} {drain : Drain}
    (hdrain : debouncer.calls[index]? = some drain) :
    ∃ first last, debouncer.drains = first ++ drain :: last ∧
      (debouncer.drain? .loop).toList ++ debouncer.calls.eraseIdx index = first ++ last := by
  obtain ⟨first, last, hcalls, herase, _⟩ := split_getElem? hdrain
  refine ⟨(debouncer.drain? .loop).toList ++ first, last, ?_, ?_⟩
  · rw [drains, hcalls, List.append_assoc]
  · rw [herase, List.append_assoc]

theorem setDrain_strays (debouncer : Debouncer) (drain : Drain) (site : Site) :
    (debouncer.setDrain drain site).strays = debouncer.strays ∧
      (debouncer.setDrain drain site).launches = debouncer.launches := by
  unfold setDrain
  split
  · split <;> exact ⟨rfl, rfl⟩
  · exact ⟨rfl, rfl⟩

theorem poll_change (before : Debouncer) (site : Site) :
    Change before (.poll site) (before.step (.poll site)) := by
  simp only [step]
  rcases before.poll_cases site with h | ⟨drain, hdrain, h⟩
  · rw [h]
    exact .same ⟨rfl, rfl, rfl⟩
  · obtain ⟨first, last, hbefore, hafter⟩ := drains_setDrain hdrain
    rw [h]
    exact .polled drain first last ⟨rfl, rfl, rfl⟩ (congrArg Queue.keys (setDrain_queue ..)) hbefore
      (hafter _) (setDrain_strays ..).1 rfl

theorem closeLoop_change (before : Debouncer) :
    Change before .closeLoop (before.step .closeLoop) := by
  simp only [step]
  rcases before.closeLoop_cases with h | ⟨ticker, drain, hloop, hcomplete, h⟩
  · rw [h]
    exact .same ⟨rfl, rfl, rfl⟩
  · refine .closed drain [] before.calls ⟨rfl, rfl, rfl⟩ hcomplete ?_ ?_ ?_ ?_ ?_
    · rw [h]
    · simp only [drains, drain?, hloop]; rfl
    · rw [h]; rfl
    · rw [h]
    · rw [h]

theorem closeCall_change (before : Debouncer) (index : Nat) :
    Change before (.closeCall index) (before.step (.closeCall index)) := by
  simp only [step]
  rcases before.closeCall_cases index with h | ⟨drain, hdrain, hcomplete, h⟩
  · rw [h]
    exact .same ⟨rfl, rfl, rfl⟩
  · obtain ⟨first, last, hbefore, hafter⟩ := drains_eraseIdx hdrain
    rw [h]
    exact .closed drain first last ⟨rfl, rfl, rfl⟩ hcomplete rfl hbefore hafter rfl rfl

theorem abandonCall_change (before : Debouncer) (index : Nat) :
    Change before (.abandonCall index) (before.step (.abandonCall index)) := by
  simp only [step]
  rcases before.abandonCall_cases index with ⟨hnone, h⟩ | ⟨drain, hdrain, h⟩
  · rw [h]
    exact .same ⟨rfl, by simp only [discarded, hnone]; rfl, rfl⟩
  · obtain ⟨first, last, hbefore, hafter⟩ := drains_eraseIdx hdrain
    have hdiscarded : before.discarded (.abandonCall index) = drain.waiting := by
      simp only [discarded, hdrain, Option.toList_some, List.flatMap_cons, List.flatMap_nil,
        List.append_nil]
    rw [h]
    exact .abandoned drain first last rfl hdiscarded rfl rfl hbefore hafter rfl rfl

theorem Turn.change {before : Debouncer} {move : Move} {dispatch : Dispatch} {stage : Stage}
    (hturn : Turn before move dispatch stage) (hquiet : before.Quiet move) :
    Change before move (before.step move) := by
  rw [hturn.step_eq]
  exact .advanced dispatch.number stage hturn.stage_ne hquiet rfl (before.advance_drains _ _) rfl
    rfl ⟨dispatch, rfl, hturn⟩

/-- Every move changes the debouncer in one of the eight ways. -/
theorem step_change (before : Debouncer) (move : Move)
    (hphase : before.queue.phase = before.loop.phase) :
    Change before move (before.step move) := by
  cases move with
  | add key => exact before.add_change key
  | edit change => exact .of_eq ⟨rfl, rfl, rfl⟩ rfl rfl rfl rfl rfl
  | start now attribution => exact before.start_change now attribution hphase
  | cancel => exact .of_eq ⟨rfl, rfl, rfl⟩ rfl rfl rfl rfl rfl
  | heed => exact before.heed_change
  | tick now => exact before.tick_change now
  | call attribution => exact before.call_change attribution
  | poll site => exact before.poll_change site
  | closeLoop => exact before.closeLoop_change
  | closeCall index => exact before.closeCall_change index
  | abandonCall index => exact before.abandonCall_change index
  | send dispatch =>
      rcases before.send_cases dispatch with ⟨stage, hturn⟩ | ⟨h, _⟩
      · exact hturn.change ⟨rfl, rfl, rfl⟩
      · rw [h]
        exact .same ⟨rfl, rfl, rfl⟩
  | land dispatch outcome =>
      rcases before.land_cases dispatch outcome with hturn | h
      · exact hturn.change ⟨rfl, rfl, rfl⟩
      · rw [h]
        exact .same ⟨rfl, rfl, rfl⟩

/-! ## What is left alone -/

section LeftAlone

variable {debouncer : Debouncer} {move : Move}

/-- As long as no caller drains there is nothing that callers wait for. -/
theorem step_calls_eq_nil (hcalls : debouncer.calls = [])
    (hmove : ∀ attribution, move ≠ .call attribution) : (debouncer.step move).calls = [] := by
  have hadvance (number : Nat) (stage : Stage) : (debouncer.advance number stage).calls = [] := by
    rw [advance, hcalls]
    rfl
  cases move with
  | add _ | edit _ | cancel => exact hcalls
  | start now attribution =>
      simp only [step]
      split
      next started hstart => rwa [(start_eq_ok hstart).2.2.2.1]
      · exact hcalls
  | heed => rcases debouncer.heed_cases with h | ⟨_, _, h⟩ <;> rw [step, h] <;> exact hcalls
  | tick now =>
      rcases debouncer.tick_cases now with h | ⟨_, _, _, _, h⟩ <;> rw [step, h] <;> exact hcalls
  | call attribution => exact absurd rfl (hmove attribution)
  | poll site =>
      rcases debouncer.poll_cases site with h | ⟨drain, hdrain, h⟩
      · rwa [step, h]
      · cases site with
        | loop =>
            rw [step, h, setDrain]
            split <;> exact hcalls
        | call index =>
            rw [drain?, hcalls] at hdrain
            cases hdrain
  | closeLoop =>
      rcases debouncer.closeLoop_cases with h | ⟨_, _, _, _, h⟩ <;> rw [step, h] <;> exact hcalls
  | closeCall index =>
      rcases debouncer.closeCall_cases index with h | ⟨_, _, _, h⟩ <;> rw [step, h]
      · exact hcalls
      · rw [hcalls, List.eraseIdx_nil]
  | abandonCall index =>
      rcases debouncer.abandonCall_cases index with ⟨_, h⟩ | ⟨_, _, h⟩ <;> rw [step, h]
      · exact hcalls
      · rw [hcalls, List.eraseIdx_nil]
  | send dispatch =>
      rcases debouncer.send_cases dispatch with ⟨stage, hturn⟩ | ⟨h, _⟩
      · rw [hturn.step_eq, hadvance]
      · rwa [h]
  | land dispatch outcome =>
      rcases debouncer.land_cases dispatch outcome with hturn | h
      · rw [hturn.step_eq, hadvance]
      · rwa [h]

/-- Unless a drain is given up every dispatch has its drain. -/
theorem step_strays_eq_nil (hstrays : debouncer.strays = [])
    (hheed : move = .heed → debouncer.heed = debouncer)
    (habandon : ∀ index, move = .abandonCall index → debouncer.calls[index]? = none) :
    (debouncer.step move).strays = [] := by
  have hadvance (number : Nat) (stage : Stage) : (debouncer.advance number stage).strays = [] := by
    rw [advance, hstrays]
    rfl
  cases move with
  | add _ | edit _ | cancel | call _ => exact hstrays
  | start now attribution =>
      simp only [step]
      split
      next started hstart => rwa [(start_eq_ok hstart).2.2.2.1]
      · exact hstrays
  | heed => rwa [step, hheed rfl]
  | tick now =>
      rcases debouncer.tick_cases now with h | ⟨_, _, _, _, h⟩ <;> rw [step, h] <;> exact hstrays
  | poll site =>
      rcases debouncer.poll_cases site with h | ⟨_, _, h⟩ <;> rw [step, h]
      · exact hstrays
      · exact (setDrain_strays ..).1.trans hstrays
  | closeLoop =>
      rcases debouncer.closeLoop_cases with h | ⟨_, _, _, _, h⟩ <;> rw [step, h] <;> exact hstrays
  | closeCall index =>
      rcases debouncer.closeCall_cases index with h | ⟨_, _, _, h⟩ <;> rw [step, h] <;>
        exact hstrays
  | abandonCall index => rwa [step, abandonCall, habandon index rfl]
  | send dispatch =>
      rcases debouncer.send_cases dispatch with ⟨stage, hturn⟩ | ⟨h, _⟩
      · rw [hturn.step_eq, hadvance]
      · rwa [h]
  | land dispatch outcome =>
      rcases debouncer.land_cases dispatch outcome with hturn | h
      · rw [hturn.step_eq, hadvance]
      · rwa [h]

/-- A drain of the loop that does not begin or go on stays as it is, or it is gone. -/
theorem step_drain?_loop (htick : ∀ now, move ≠ .tick now) (hpoll : move ≠ .poll .loop)
    (hturn : ∀ dispatch stage, ¬Turn debouncer move dispatch stage) :
    (debouncer.step move).drain? .loop = debouncer.drain? .loop ∨
      (debouncer.step move).drain? .loop = none := by
  cases move with
  | add _ | edit _ | cancel | call _ => exact Or.inl rfl
  | start now attribution =>
      simp only [step]
      split
      next started hstart =>
        rw [(start_eq_ok hstart).2.2.2.1]
        exact Or.inr rfl
      · exact Or.inl rfl
  | heed =>
      rcases debouncer.heed_cases with h | ⟨_, _, h⟩ <;> rw [step, h]
      · exact Or.inl rfl
      · exact Or.inr rfl
  | tick now => exact absurd rfl (htick now)
  | poll site =>
      cases site with
      | loop => exact absurd rfl hpoll
      | call index =>
          left
          rcases debouncer.poll_cases (.call index) with h | ⟨_, _, h⟩ <;> rw [step, h]
          rfl
  | closeLoop =>
      rcases debouncer.closeLoop_cases with h | ⟨_, _, _, _, h⟩ <;> rw [step, h]
      · exact Or.inl rfl
      · exact Or.inr rfl
  | closeCall index =>
      left
      rcases debouncer.closeCall_cases index with h | ⟨_, _, _, h⟩ <;> rw [step, h]
      rfl
  | abandonCall index =>
      left
      rcases debouncer.abandonCall_cases index with ⟨_, h⟩ | ⟨_, _, h⟩ <;> rw [step, h]
      rfl
  | send dispatch =>
      rcases debouncer.send_cases dispatch with ⟨stage, h⟩ | ⟨h, _⟩
      · exact absurd h (hturn dispatch stage)
      · exact Or.inl (by rw [h])
  | land dispatch outcome =>
      rcases debouncer.land_cases dispatch outcome with h | h
      · exact absurd h (hturn _ _)
      · exact Or.inl (by rw [h])

end LeftAlone

end Debouncer

end Rescan.Debounce
