import Rescan.Proofs.Debounce.Lifecycle
import Rescan.Proofs.Debounce.Numbers

/-! # One drain among others

Whoever flushes the debouncer waits for one drain: a caller for the one that it began, the loop for
the one of its tick. Other drains begin, go on and close meanwhile. Here one drain is followed from
its beginning to its report, with what becomes of it at every move.
-/

namespace Rescan.Debounce

open Rescan.Resource (Key)
open Rescan.Topology (Target)

namespace Debouncer

/-- The move by which the report of the drain at a site is taken. -/
def Site.closing : Site → Move
  | .loop => .closeLoop
  | .call index => .closeCall index

/-- A move that begins a drain, with the site and the attribution of the drain. -/
inductive Begins (debouncer : Debouncer) : Move → Site → Attribution → Prop where
  | call (attribution : Attribution) :
      Begins debouncer (.call attribution) (.call debouncer.calls.length) attribution
  | tick (now : Nat) (attribution : Attribution) (ticker : Ticker)
      (hloop : debouncer.loop = .idle attribution ticker) (hdue : ticker.due ≤ now) :
      Begins debouncer (.tick now) .loop attribution

/-- A drain begins with all pending keys. -/
theorem Begins.drain? {debouncer : Debouncer} {move : Move} {site : Site}
    {attribution : Attribution} (hbegins : Begins debouncer move site attribution) :
    (debouncer.step move).drain? site = some (.ofKeys attribution debouncer.queue.keys) := by
  cases hbegins with
  | call =>
      simp only [step, Debouncer.call, Debouncer.drain?]
      exact List.getElem?_concat_length
  | tick now _ ticker hloop hdue =>
      simp only [step, Debouncer.tick, hloop, if_pos hdue]
      rfl

end Debouncer

open Debouncer (Site Begins Turn)

/-- A debouncer and the site of the drain that is followed, as long as there is one. -/
structure Flush where
  debouncer : Debouncer
  site : Option Site

namespace Flush

/-! ## Following a drain -/

/-- The drain that is followed. -/
def drain? (flush : Flush) : Option Drain := flush.site.bind flush.debouncer.drain?

/-- The dispatches of the drain that are still to be collected. -/
def dispatches (flush : Flush) : List Dispatch := flush.drain?.toList.flatMap Drain.dispatches

theorem dispatches_of_drain? {flush : Flush} {drain : Drain} (hdrain : flush.drain? = some drain) :
    flush.dispatches = drain.dispatches := by
  simp only [dispatches, hdrain, Option.toList_some, List.flatMap_cons, List.flatMap_nil,
    List.append_nil]

theorem mem_drains_of_drain? {flush : Flush} {drain : Drain}
    (hdrain : flush.drain? = some drain) : drain ∈ flush.debouncer.drains := by
  obtain ⟨site, _, hsite⟩ := Option.bind_eq_some_iff.mp hdrain
  obtain ⟨first, last, hdrains, _⟩ := Debouncer.drains_setDrain hsite
  exact hdrains ▸ List.mem_append_right _ List.mem_cons_self

/-- The site of a drain that callers wait for, once another one or itself is gone. -/
def shift (index gone : Nat) : Option Site :=
  if index = gone then none
  else if gone < index then some (.call (index - 1))
  else some (.call index)

/-- Where the drain at a site is found after a move. -/
def follow (debouncer : Debouncer) (move : Move) : Site → Option Site
  | .loop => ((debouncer.step move).drain? .loop).map fun _ => .loop
  | .call index =>
    match move with
    | .closeCall gone | .abandonCall gone =>
      if (debouncer.step move).calls.length < debouncer.calls.length then shift index gone
      else some (.call index)
    | _ => some (.call index)

def step (flush : Flush) (move : Move) : Flush where
  debouncer := flush.debouncer.step move
  site := flush.site.bind (follow flush.debouncer move)

abbrev run (flush : Flush) (moves : List Move) : Flush := Steps.run step flush moves

/-- Following a drain does not interfere with the debouncer. -/
theorem debouncer_run (flush : Flush) (moves : List Move) :
    (flush.run moves).debouncer = flush.debouncer.run moves :=
  (List.foldl_hom debouncer fun _ _ => rfl).symm

/-- What is observed of the moves of a run, in order. -/
abbrev history {α : Type} (observe : Flush → Move → List α) (flush : Flush) (moves : List Move) :
    List α :=
  Steps.history step observe flush moves

/-- The drain that a move begins, with its keys in the given order. -/
def begin (debouncer : Debouncer) (move : Move) (site : Site) (attribution : Attribution)
    (order : List Key) : Flush where
  debouncer := (debouncer.step move).setDrain (.ofKeys attribution order) site
  site := some site

/-- What a move hands to the dispatcher of the drain. -/
def handed (flush : Flush) (move : Move) : List (Target × Delivery.Request) :=
  ((flush.debouncer.handed move).filter fun entry => entry.1 ∈ flush.dispatches).map Prod.snd

/-- The dispatch of the drain whose delivery a move ends, with the outcome. -/
def landed (flush : Flush) : Move → List (Dispatch × Outcome)
  | .land dispatch outcome =>
    if dispatch ∈ flush.dispatches ∧ dispatch.stage = .sent ∧ outcome ≠ .noTarget then
      [(dispatch, outcome)]
    else []
  | _ => []

/-- The report that whoever waits for the drain takes at a move. -/
def returned (flush : Flush) : Move → List Report
  | .closeCall index =>
    if flush.site = some (.call index) then (flush.debouncer.closeCall index).2.toList else []
  | .closeLoop =>
    if flush.site = some .loop then
      (flush.drain?.toList.filter Drain.isComplete).map Drain.report
    else []
  | _ => []

/-- The drain is given up: its caller does not wait any more, or the loop ends. -/
def GivesUp (flush : Flush) : Move → Prop
  | .abandonCall index => flush.site = some (.call index)
  | .heed => flush.site = some .loop ∧ flush.debouncer.cancelled = true
  | _ => False

/-- What becomes of the drain at a move. -/
inductive Goes (flush : Flush) (drain : Drain) (move : Move) : Prop where
  | stays (hdrain : (flush.step move).drain? = some drain) (hhanded : flush.handed move = [])
      (hreturned : flush.returned move = [])
  /-- It collects outcomes and launches dispatches. -/
  | polled (hdrain : (flush.step move).drain? = some (drain.collect.launch
        flush.debouncer.settings.maxConcurrentDispatches flush.debouncer.launches))
      (hmove : flush.site.map Move.poll = some move) (hhanded : flush.handed move = [])
      (hreturned : flush.returned move = [])
  /-- A dispatch moves on, of this drain or of another one. -/
  | moved (dispatch : Dispatch) (stage : Stage)
      (hturn : Turn flush.debouncer move dispatch stage)
      (hdrain : (flush.step move).drain? = some (drain.advance dispatch.number stage))
      (hreturned : flush.returned move = [])
  /-- It is complete and its report is taken. -/
  | closed (hsite : (flush.step move).site = none) (hcomplete : drain.isComplete = true)
      (hhanded : flush.handed move = []) (hreturned : flush.returned move = [drain.report])
  /-- It is given up. -/
  | lost (hsite : (flush.step move).site = none) (hgives : flush.GivesUp move)
      (hhanded : flush.handed move = []) (hreturned : flush.returned move = [])

section Loop

variable {debouncer : Debouncer} {drain : Drain} {move : Move}

theorem drain?_step_loop :
    ((⟨debouncer, some .loop⟩ : Flush).step move).drain? = (debouncer.step move).drain? .loop := by
  simp only [step, follow, Option.bind_some, Flush.drain?]
  cases h : (debouncer.step move).drain? .loop <;> simp [h]

theorem Goes.loop_stays (hloop : (debouncer.step move).drain? .loop = some drain)
    (hhanded : debouncer.handed move = [])
    (hreturned : (⟨debouncer, some .loop⟩ : Flush).returned move = []) :
    Goes ⟨debouncer, some .loop⟩ drain move :=
  .stays (drain?_step_loop.trans hloop) (by simp [handed, hhanded]) hreturned

section Drained

variable (hdrain : debouncer.drain? .loop = some drain)

include hdrain

theorem loop_of_drain? : ∃ ticker, debouncer.loop = .draining ticker drain := by
  cases hloop : debouncer.loop <;> simp_all [Debouncer.drain?]

theorem goes_loop_turn {dispatch : Dispatch} {stage : Stage}
    (hturn : Turn debouncer move dispatch stage) : Goes ⟨debouncer, some .loop⟩ drain move := by
  refine .moved dispatch stage hturn ?_ (by cases hturn <;> rfl)
  rw [drain?_step_loop, hturn.step_eq, Debouncer.drain?_advance, hdrain]
  rfl

/-- A loop that drains was started before, so that no start succeeds. -/
theorem goes_loop_start (hsound : debouncer.Sound) (now : Nat) (attribution : Attribution) :
    Goes ⟨debouncer, some .loop⟩ drain (.start now attribution) := by
  obtain ⟨ticker, hloop⟩ := loop_of_drain? hdrain
  refine .loop_stays ?_ rfl rfl
  rcases debouncer.start_cases now attribution with ⟨_, _, h⟩ | ⟨_, _, h⟩ | ⟨_, hphase, _⟩
  · simpa only [Debouncer.step, h] using hdrain
  · simpa only [Debouncer.step, h] using hdrain
  · rw [hsound.phase_eq, hloop] at hphase
    cases hphase

theorem goes_loop_heed : Goes ⟨debouncer, some .loop⟩ drain .heed := by
  rcases debouncer.heed_cases with h | ⟨hcancelled, _, h⟩
  · exact .loop_stays (by rwa [Debouncer.step, h]) rfl rfl
  · refine .lost ?_ ⟨rfl, hcancelled⟩ rfl rfl
    simp only [step, follow, Option.bind_some, Debouncer.step, h]
    rfl

/-- A loop that drains does not wait for a tick. -/
theorem goes_loop_tick (now : Nat) : Goes ⟨debouncer, some .loop⟩ drain (.tick now) := by
  obtain ⟨ticker, hloop⟩ := loop_of_drain? hdrain
  refine .loop_stays ?_ rfl rfl
  rcases debouncer.tick_cases now with h | ⟨_, _, hidle, _⟩
  · rwa [Debouncer.step, h]
  · rw [hloop] at hidle
    cases hidle

theorem goes_loop_poll (site : Site) : Goes ⟨debouncer, some .loop⟩ drain (.poll site) := by
  cases site with
  | loop =>
      refine .polled ?_ rfl rfl rfl
      rw [drain?_step_loop, Debouncer.step, Debouncer.drain?_poll, hdrain]
      rfl
  | call index =>
      refine .loop_stays ?_ rfl rfl
      rcases debouncer.poll_cases (.call index) with h | ⟨_, _, h⟩ <;> rw [Debouncer.step, h]
      · exact hdrain
      · exact hdrain

theorem goes_loop_closeLoop : Goes ⟨debouncer, some .loop⟩ drain .closeLoop := by
  obtain ⟨ticker, hloop⟩ := loop_of_drain? hdrain
  by_cases hcomplete : drain.isComplete = true
  · refine .closed ?_ hcomplete rfl ?_
    · simp [step, follow, Debouncer.step, Debouncer.closeLoop, hloop, hcomplete,
        Debouncer.drain?]
    · simp [returned, Flush.drain?, hdrain, hcomplete]
  · refine .loop_stays ?_ rfl ?_
    · simp [Debouncer.step, Debouncer.closeLoop, hloop, hcomplete, Debouncer.drain?]
    · simp [returned, Flush.drain?, hdrain, hcomplete]

theorem goes_loop_closeCall (index : Nat) :
    Goes ⟨debouncer, some .loop⟩ drain (.closeCall index) := by
  refine .loop_stays ?_ rfl rfl
  rcases debouncer.closeCall_cases index with h | ⟨_, _, _, h⟩ <;> rw [Debouncer.step, h]
  · exact hdrain
  · exact hdrain

theorem goes_loop_abandonCall (index : Nat) :
    Goes ⟨debouncer, some .loop⟩ drain (.abandonCall index) := by
  refine .loop_stays ?_ rfl rfl
  rcases debouncer.abandonCall_cases index with ⟨_, h⟩ | ⟨_, _, h⟩ <;> rw [Debouncer.step, h]
  · exact hdrain
  · exact hdrain

/-- What becomes of the drain of the loop. -/
theorem goes_loop (hsound : debouncer.Sound) (move : Move) :
    Goes ⟨debouncer, some .loop⟩ drain move := by
  cases move with
  | add _ | edit _ | cancel | call _ => exact .loop_stays hdrain rfl rfl
  | start now attribution => exact goes_loop_start hdrain hsound now attribution
  | heed => exact goes_loop_heed hdrain
  | tick now => exact goes_loop_tick hdrain now
  | poll site => exact goes_loop_poll hdrain site
  | closeLoop => exact goes_loop_closeLoop hdrain
  | closeCall index => exact goes_loop_closeCall hdrain index
  | abandonCall index => exact goes_loop_abandonCall hdrain index
  | send dispatch =>
      rcases debouncer.send_cases dispatch with ⟨_, hturn⟩ | ⟨h, hhanded⟩
      · exact goes_loop_turn hdrain hturn
      · exact .loop_stays (by rwa [h]) hhanded rfl
  | land dispatch outcome =>
      rcases debouncer.land_cases dispatch outcome with hturn | h
      · exact goes_loop_turn hdrain hturn
      · exact .loop_stays (by rwa [h]) rfl rfl

end Drained

end Loop

section Call

variable {debouncer : Debouncer} {index : Nat} {drain : Drain} {move : Move}

theorem Goes.call_stays (later : Nat)
    (hsite : follow debouncer move (.call index) = some (.call later))
    (hcall : (debouncer.step move).calls[later]? = some drain)
    (hhanded : debouncer.handed move = [])
    (hreturned : (⟨debouncer, some (.call index)⟩ : Flush).returned move = []) :
    Goes ⟨debouncer, some (.call index)⟩ drain move := by
  have hstep : (⟨debouncer, some (.call index)⟩ : Flush).step move =
      ⟨debouncer.step move, some (.call later)⟩ := by
    simp only [step, Option.bind_some, hsite]
  exact .stays (hstep ▸ hcall) (by simp [handed, hhanded]) hreturned

theorem length_eraseIdx_lt {gone : Nat} {other : Drain}
    (hgone : debouncer.calls[gone]? = some other) :
    (debouncer.calls.eraseIdx gone).length < debouncer.calls.length := by
  have hindex := (List.getElem?_eq_some_iff.mp hgone).1
  rw [List.length_eraseIdx, if_pos hindex]
  omega

section Waited

variable (hcall : debouncer.calls[index]? = some drain)

include hcall

/-- When another drain is gone the one that is followed is found at its new site. -/
theorem exists_shift {gone : Nat} (hother : index ≠ gone) :
    ∃ later, shift index gone = some (.call later) ∧
      (debouncer.calls.eraseIdx gone)[later]? = some drain := by
  unfold shift
  rw [if_neg hother]
  by_cases hbefore : gone < index
  · rw [if_pos hbefore]
    refine ⟨index - 1, rfl, ?_⟩
    rw [List.getElem?_eraseIdx, if_neg (by omega), Nat.sub_add_cancel (by omega), hcall]
  · rw [if_neg hbefore]
    refine ⟨index, rfl, ?_⟩
    rw [List.getElem?_eraseIdx, if_pos (by omega), hcall]

theorem goes_call_turn {dispatch : Dispatch} {stage : Stage}
    (hturn : Turn debouncer move dispatch stage) :
    Goes ⟨debouncer, some (.call index)⟩ drain move := by
  refine .moved dispatch stage hturn ?_ (by cases hturn <;> rfl)
  have hsite : follow debouncer move (.call index) = some (.call index) := by
    cases hturn <;> rfl
  simp only [step, Option.bind_some, hsite, Flush.drain?]
  rw [hturn.step_eq, Debouncer.drain?_advance, Debouncer.drain?, hcall]
  rfl

/-- Another caller comes after those that wait. -/
theorem goes_call_call (attribution : Attribution) :
    Goes ⟨debouncer, some (.call index)⟩ drain (.call attribution) := by
  refine .call_stays _ rfl ?_ rfl rfl
  rw [Debouncer.step, Debouncer.call]
  exact (List.getElem?_append_left (List.getElem?_eq_some_iff.mp hcall).1).trans hcall

theorem goes_call_start (now : Nat) (attribution : Attribution) :
    Goes ⟨debouncer, some (.call index)⟩ drain (.start now attribution) := by
  refine .call_stays _ rfl ?_ rfl rfl
  simp only [Debouncer.step]
  split
  next started hstart => rwa [(Debouncer.start_eq_ok hstart).2.2.2.1]
  · exact hcall

theorem goes_call_heed : Goes ⟨debouncer, some (.call index)⟩ drain .heed := by
  refine .call_stays _ rfl ?_ rfl rfl
  rcases debouncer.heed_cases with h | ⟨_, _, h⟩ <;> rw [Debouncer.step, h]
  · exact hcall
  · exact hcall

theorem goes_call_tick (now : Nat) :
    Goes ⟨debouncer, some (.call index)⟩ drain (.tick now) := by
  refine .call_stays _ rfl ?_ rfl rfl
  rcases debouncer.tick_cases now with h | ⟨_, _, _, _, h⟩ <;> rw [Debouncer.step, h]
  · exact hcall
  · exact hcall

theorem goes_call_poll (site : Site) :
    Goes ⟨debouncer, some (.call index)⟩ drain (.poll site) := by
  by_cases hsame : site = .call index
  · subst site
    refine .polled ?_ rfl rfl rfl
    simp only [step, Option.bind_some, follow, Flush.drain?]
    rw [Debouncer.step, Debouncer.drain?_poll, Debouncer.drain?, hcall]
    rfl
  · refine .call_stays _ rfl ?_ rfl rfl
    rcases debouncer.poll_cases site with h | ⟨_, _, h⟩
    · rwa [Debouncer.step, h]
    · rw [Debouncer.step, h]
      cases site with
      | loop =>
          rw [Debouncer.setDrain]
          split <;> exact hcall
      | call other =>
          have hother : other ≠ index := fun h => hsame (h ▸ rfl)
          exact (List.getElem?_set_ne hother).trans hcall

theorem goes_call_closeLoop : Goes ⟨debouncer, some (.call index)⟩ drain .closeLoop := by
  refine .call_stays _ rfl ?_ rfl rfl
  rcases debouncer.closeLoop_cases with h | ⟨_, _, _, _, h⟩ <;> rw [Debouncer.step, h]
  · exact hcall
  · exact hcall

/-- The report of the drain is taken if it is complete. -/
theorem goes_call_closeCall_self :
    Goes ⟨debouncer, some (.call index)⟩ drain (.closeCall index) := by
  by_cases hcomplete : drain.isComplete = true
  · refine .closed ?_ hcomplete rfl ?_
    · simp only [step, Option.bind_some, follow, Debouncer.step, Debouncer.closeCall, hcall,
        hcomplete, if_true, if_pos (length_eraseIdx_lt hcall), shift]
    · simp [returned, Debouncer.closeCall, hcall, hcomplete]
  · refine .call_stays index ?_ ?_ rfl ?_
    · simp [follow, Debouncer.step, Debouncer.closeCall, hcall, hcomplete]
    · simp [Debouncer.step, Debouncer.closeCall, hcall, hcomplete]
    · simp [returned, Debouncer.closeCall, hcall, hcomplete]

theorem goes_call_closeCall_other {gone : Nat} (hother : index ≠ gone) :
    Goes ⟨debouncer, some (.call index)⟩ drain (.closeCall gone) := by
  have hreturned : (⟨debouncer, some (.call index)⟩ : Flush).returned (.closeCall gone) = [] :=
    if_neg fun h => hother (by cases h; rfl)
  rcases debouncer.closeCall_cases gone with h | ⟨_, hgone, _, h⟩
  · refine .call_stays index ?_ ?_ rfl hreturned
    · simp [follow, Debouncer.step, h]
    · rwa [Debouncer.step, h]
  · obtain ⟨later, hshift, hlater⟩ := exists_shift hcall hother
    refine .call_stays later ?_ ?_ rfl hreturned
    · rw [follow, Debouncer.step, h, if_pos (length_eraseIdx_lt hgone), hshift]
    · rwa [Debouncer.step, h]

theorem goes_call_abandonCall_self :
    Goes ⟨debouncer, some (.call index)⟩ drain (.abandonCall index) := by
  rcases debouncer.abandonCall_cases index with ⟨hnone, _⟩ | ⟨_, _, h⟩
  · cases hcall.symm.trans hnone
  · refine .lost ?_ rfl rfl rfl
    simp only [step, Option.bind_some, follow, Debouncer.step, h,
      if_pos (length_eraseIdx_lt hcall), shift, if_true]

theorem goes_call_abandonCall_other {gone : Nat} (hother : index ≠ gone) :
    Goes ⟨debouncer, some (.call index)⟩ drain (.abandonCall gone) := by
  rcases debouncer.abandonCall_cases gone with ⟨_, h⟩ | ⟨_, hgone, h⟩
  · refine .call_stays index ?_ ?_ rfl rfl
    · simp [follow, Debouncer.step, h]
    · rwa [Debouncer.step, h]
  · obtain ⟨later, hshift, hlater⟩ := exists_shift hcall hother
    refine .call_stays later ?_ ?_ rfl rfl
    · rw [follow, Debouncer.step, h, if_pos (length_eraseIdx_lt hgone), hshift]
    · rwa [Debouncer.step, h]

/-- What becomes of a drain that a caller waits for. -/
theorem goes_call (move : Move) : Goes ⟨debouncer, some (.call index)⟩ drain move := by
  cases move with
  | add _ | edit _ | cancel => exact .call_stays _ rfl hcall rfl rfl
  | call attribution => exact goes_call_call hcall attribution
  | start now attribution => exact goes_call_start hcall now attribution
  | heed => exact goes_call_heed hcall
  | tick now => exact goes_call_tick hcall now
  | poll site => exact goes_call_poll hcall site
  | closeLoop => exact goes_call_closeLoop hcall
  | closeCall gone =>
      by_cases hsame : index = gone
      · exact hsame ▸ goes_call_closeCall_self hcall
      · exact goes_call_closeCall_other hcall hsame
  | abandonCall gone =>
      by_cases hsame : index = gone
      · exact hsame ▸ goes_call_abandonCall_self hcall
      · exact goes_call_abandonCall_other hcall hsame
  | send dispatch =>
      rcases debouncer.send_cases dispatch with ⟨_, hturn⟩ | ⟨h, hhanded⟩
      · exact goes_call_turn hcall hturn
      · exact .call_stays _ rfl (by rwa [h]) hhanded rfl
  | land dispatch outcome =>
      rcases debouncer.land_cases dispatch outcome with hturn | h
      · exact goes_call_turn hcall hturn
      · exact .call_stays _ rfl (by rwa [h]) rfl rfl

end Waited

end Call

/-- What becomes of the drain that is followed. -/
theorem goes {flush : Flush} (hsound : flush.debouncer.Sound) {drain : Drain}
    (hdrain : flush.drain? = some drain) (move : Move) : Goes flush drain move := by
  obtain ⟨debouncer, site⟩ := flush
  obtain ⟨site, rfl, hdrain⟩ := Option.bind_eq_some_iff.mp hdrain
  cases site with
  | loop => exact goes_loop hdrain hsound move
  | call index => exact goes_call hdrain move

/-- What is left of a drain that goes on after a move. -/
theorem later_cases {flush : Flush} (hsound : flush.debouncer.Sound) {drain later : Drain}
    (hdrain : flush.drain? = some drain) {move : Move}
    (hlater : (flush.step move).drain? = some later) :
    (later = drain ∧ flush.handed move = []) ∨
    (later = drain.collect.launch flush.debouncer.settings.maxConcurrentDispatches
      flush.debouncer.launches ∧ flush.handed move = []) ∨
    ∃ dispatch stage, Turn flush.debouncer move dispatch stage ∧
      later = drain.advance dispatch.number stage := by
  cases goes hsound hdrain move with
  | stays hstays hhanded => exact Or.inl ⟨Option.some.inj (hlater.symm.trans hstays), hhanded⟩
  | polled hpolled _ hhanded =>
      exact Or.inr (Or.inl ⟨Option.some.inj (hlater.symm.trans hpolled), hhanded⟩)
  | moved dispatch stage hturn hmoved =>
      exact Or.inr (Or.inr ⟨dispatch, stage, hturn, Option.some.inj (hlater.symm.trans hmoved)⟩)
  | closed hsite =>
      rw [Flush.drain?, hsite] at hlater
      cases hlater
  | lost hsite =>
      rw [Flush.drain?, hsite] at hlater
      cases hlater

end Flush

end Rescan.Debounce
