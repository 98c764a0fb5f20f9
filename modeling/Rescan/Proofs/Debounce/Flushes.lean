import Rescan.Proofs.Debounce.FlushProgress
import Rescan.Proofs.Debounce.FlushReport
import Rescan.Proofs.Debounce.Pending
import Rescan.Proofs.Settings.Check

/-! # Flushes

A flush takes all pending keys and hands over one request for each of them that has a target. Its
report tells how many keys came to which outcome. Neither depends on the order in which the keys
are taken, on the order in which dispatches end, on how many may be under way at once, or on what
else the debouncer does meanwhile.
-/

namespace Rescan.Debounce

open Rescan.Resource (Key)
open Rescan.Telemetry (Meter)
open Rescan.Topology (Registry Target)
open Debouncer (Site Begins)

namespace Debouncer

section SetDrain

variable {debouncer : Debouncer} {site : Site} {drain other : Drain}

theorem drain?_setDrain (hdrain : debouncer.drain? site = some drain) :
    (debouncer.setDrain other site).drain? site = some other := by
  cases site with
  | loop =>
      cases hloop : debouncer.loop <;> simp_all [Debouncer.drain?, setDrain]
  | call index =>
      have hindex := (List.getElem?_eq_some_iff.mp hdrain).1
      simp [Debouncer.drain?, setDrain, hindex]

variable (hdrain : debouncer.drain? site = some drain)
  (hdispatches : other.dispatches = drain.dispatches)

include hdrain hdispatches

theorem setDrain_dispatches :
    (debouncer.setDrain other site).dispatches = debouncer.dispatches := by
  obtain ⟨first, last, hbefore, hafter⟩ := drains_setDrain hdrain
  rw [dispatches_eq, dispatches_eq, hafter, hbefore, (setDrain_strays ..).1]
  simp only [List.flatMap_append, List.flatMap_cons, hdispatches]

/-- The order in which keys wait does not matter. -/
theorem Sound.setDrain (hsound : debouncer.Sound) (hwaiting : other.waiting.Perm drain.waiting) :
    (debouncer.setDrain other site).Sound := by
  obtain ⟨first, last, hbefore, hafter⟩ := drains_setDrain hdrain
  have hheld : drain ∈ debouncer.drains := hbefore ▸ List.mem_append_right _ List.mem_cons_self
  have hcases : ∀ entry ∈ (debouncer.setDrain other site).drains,
      entry ∈ debouncer.drains ∨ entry = other := by
    intro entry hentry
    rw [hafter, List.mem_append, List.mem_cons] at hentry
    rw [hbefore, List.mem_append, List.mem_cons]
    rcases hentry with hentry | hentry | hentry
    · exact Or.inl (Or.inl hentry)
    · exact Or.inr hentry
    · exact Or.inl (Or.inr (Or.inr hentry))
  refine ⟨?_, ?_, ?_, fun entry hentry => ?_, fun entry hentry => ?_⟩
  · rw [setDrain_queue, setDrain_loop_phase, hsound.phase_eq]
  · rw [setDrain_queue, (setDrain_frame ..).1]
    exact hsound.checked
  · rw [setDrain_dispatches hdrain hdispatches, (setDrain_strays ..).2]
    exact hsound.numbered
  · rcases hcases entry hentry with hold | rfl
    · exact hsound.distinct entry hold
    · rw [hdispatches, (hwaiting.append_right _).nodup_iff]
      exact hsound.distinct drain hheld
  · rw [(setDrain_frame ..).1]
    rcases hcases entry hentry with hold | rfl
    · exact hsound.bounded entry hold
    · rw [hdispatches]
      exact hsound.bounded drain hheld

theorem Apart.setDrain (hapart : debouncer.Apart) : (debouncer.setDrain other site).Apart := by
  unfold Apart
  rw [setDrain_dispatches hdrain hdispatches]
  exact hapart

end SetDrain

section Begins

variable {debouncer : Debouncer} {move : Move} {site : Site} {attribution : Attribution}
  (hbegins : Begins debouncer move site attribution)

include hbegins

/-- The drain that begins takes all pending keys. -/
theorem Begins.keys_eq : (debouncer.step move).queue.keys = [] := by
  cases hbegins with
  | call => rfl
  | tick now _ ticker hloop hdue =>
      simp only [step, Debouncer.tick, hloop, if_pos hdue]
      rfl

theorem Begins.ne_edit (change : Registry.Edit) : move ≠ .edit change := by
  cases hbegins <;> simp

end Begins

end Debouncer

namespace Flush

/-- The drain of a flush, however its keys are ordered, is the one of a debouncer that can be
reached. -/
theorem begin_spec {before : Debouncer} (hsound : before.Sound) (hapart : before.Apart)
    {move : Move} {site : Site} {attribution : Attribution} {order : List Key}
    (hbegins : Begins before move site attribution) (horder : order.Perm before.queue.keys) :
    let flush := begin before move site attribution order
    flush.debouncer.Sound ∧ flush.debouncer.Apart ∧
      flush.debouncer.settings = before.settings ∧ flush.debouncer.registry = before.registry ∧
      flush.debouncer.queue.keys = [] ∧ flush.drain? = some (.ofKeys attribution order) := by
  have hdrain := hbegins.drain?
  have hframe := (before.step move).setDrain_frame (.ofKeys attribution order) site
  refine ⟨(hsound.step move).setDrain hdrain rfl horder,
    (hapart.step hsound move).setDrain hdrain rfl, ?_, ?_, ?_, Debouncer.drain?_setDrain hdrain⟩
  · exact hframe.1.trans (before.step_settings move)
  · exact hframe.2.2.trans (before.step_registry hbegins.ne_edit)
  · rw [begin, Debouncer.setDrain_queue]
    exact hbegins.keys_eq

/-- Take any run of a new debouncer whose settings pass their check, and let a drain begin then,
by a call or at a tick. Its keys may be taken in any order, and anything may happen while it goes
on, dispatches end in any order, other drains begin and close, keys are added, as long as the
registry stays as it is; the dispatcher decides about each delivery. Then a dispatch comes to the
outcome of its own key, whatever becomes of the others. When the report is taken one request was
handed over for each key that has a target, and the report counts the keys of each outcome. If
dispatches end the report is taken at last. If no other drain begins and the debouncer is not
stopped meanwhile, just the keys are pending that were added since. -/
theorem report_counts_every_key (settings : Settings.Debouncer) (registry : Registry)
    (meter : Meter) (earlier : List Move) (verdict : Target → Delivery.Request → Outcome)
    {move : Move} {site : Site} {attribution : Attribution} {order : List Key}
    (hcheck : settings.check = .ok ())
    (hverdict : ∀ target request, verdict target request ≠ .noTarget)
    (hbegins : Begins ((Debouncer.new settings registry meter).run earlier) move site attribution)
    (horder : order.Perm ((Debouncer.new settings registry meter).run earlier).queue.keys) :
    let before := (Debouncer.new settings registry meter).run earlier
    let keys := before.queue.keys
    let outcome := outcomeOf before.registry verdict attribution
    let flush := begin before move site attribution order
    (∀ moves, flush.Steady moves →
      Decided before.registry verdict (flush.history landed moves) →
      (∀ dispatch ∈ (flush.run moves).dispatches, ∀ noted, dispatch.stage = .ended noted →
        noted = outcome dispatch.key) ∧
      ∀ report ∈ flush.history returned moves,
        (flush.history Flush.handed moves).Perm
          (keys.filterMap (delivery? before.registry attribution)) ∧
        report.drained = keys.length ∧
        report.dispatched = keys.countP (fun key => outcome key = .success) ∧
        report.failed = keys.countP (fun key => outcome key = .failure) ∧
        report.panicked = keys.countP (fun key => outcome key = .panic) ∧
        report.noTarget = keys.countP (fun key => before.registry.lookup key.ns = none) ∧
        report.dispatched + report.failed + report.noTarget + report.panicked = report.drained) ∧
    (∀ schedule, flush.Fair schedule →
      ∃ count report, report ∈ flush.history returned (first schedule count)) ∧
    ∀ moves, flush.debouncer.history Debouncer.begun moves = [] →
      let current := flush.debouncer.run moves
      (current.queue.phase = .stopped → flush.debouncer.queue.phase = .stopped) →
      current.queue.keys = flush.debouncer.history Debouncer.accepted moves ∧
      (current.queue.phase ≠ .stopped → ∀ key, key ∈ current.queue.keys ↔ .add key ∈ moves) := by
  intro before keys outcome flush
  have hbefore : before.Sound := (Debouncer.new_sound settings registry meter).run earlier
  have hdistinct : before.Apart :=
    (Debouncer.new_apart settings registry meter).run (Debouncer.new_sound ..) earlier
  obtain ⟨hsound, hapart, hsettings, hregistry, hempty, hdrain⟩ :=
    begin_spec hbefore hdistinct hbegins horder
  refine ⟨fun moves hsteady hdecided => ?_, fun schedule hfair => ?_,
    fun moves hbegun hstopped => ?_⟩
  · have hinitial : Accounts before.registry verdict attribution keys (.ofKeys attribution order)
        [] [] := accounts_ofKeys horder
    obtain ⟨haccounts, hexact⟩ := hinitial.run hsound hapart hregistry hdrain hsteady hdecided
    constructor
    · intro dispatch hmem noted hstage
      cases hlater : (flush.run moves).drain? with
      | none => simp [dispatches, hlater] at hmem
      | some later =>
          obtain ⟨gathered, hthen⟩ := haccounts later hlater
          rw [dispatches_of_drain? hlater] at hmem
          exact (hthen.ended dispatch hmem noted hstage).symm
    · intro report hreport
      obtain ⟨hhanded, hdrained, hcount⟩ := hexact report hreport
      have hmissing : report.noTarget =
          keys.countP fun key => before.registry.lookup key.ns = none := by
        refine (hcount .noTarget).trans (List.countP_congr fun key _ => ?_)
        simp only [outcomeOf_eq_noTarget_iff hverdict]
      have hsum := Outcome.sum_countP outcome keys
      refine ⟨hhanded, hdrained, hcount .success, hcount .failure, hcount .panic, hmissing, ?_⟩
      rw [hdrained, ← hsum, ← hcount .success, ← hcount .failure, ← hcount .noTarget,
        ← hcount .panic]
      rfl
  · have hlimit : 0 < flush.debouncer.settings.maxConcurrentDispatches := by
      rw [hsettings, Debouncer.run_settings]
      exact Nat.pos_of_ne_zero (Settings.Debouncer.of_check_eq_ok hcheck).2
    exact exists_returned hsound hapart hlimit (by rw [hdrain]; rfl) hfair
  · by_cases hphase : (flush.debouncer.run moves).queue.phase = .stopped
    · refine ⟨?_, absurd hphase⟩
      rw [Queue.keys_eq_nil _ hphase,
        Debouncer.history_accepted_of_stopped hsound (hstopped hphase) moves]
    · refine ⟨?_, fun _ key => ?_⟩
      · rw [Debouncer.keys_run hsound hbegun hphase, hempty, List.nil_append]
      · rw [Debouncer.mem_keys_run hsound hbegun hphase, hempty]
        simp

/-- Four keys are added, one of them in a namespace without a target. -/
def mixedKeys : List Move :=
  [.edit (.put "ns-a" ⟨{ scheme := "http", path := .segments [] }, none⟩),
    .add ⟨"pod", "ns-a", "x"⟩, .add ⟨"pod", "ns-a", "y"⟩, .add ⟨"pod", "ns-a", "z"⟩,
    .add ⟨"pod", "ns-b", "w"⟩]

/-- The four keys in another order. -/
def mixedOrder : List Key :=
  [⟨"pod", "ns-a", "z"⟩, ⟨"pod", "ns-b", "w"⟩, ⟨"pod", "ns-a", "x"⟩, ⟨"pod", "ns-a", "y"⟩]

/-- One of the deliveries succeeds, one fails and one breaks down. -/
def mixedVerdict (_ : Target) (request : Delivery.Request) : Outcome :=
  if request.name = "x" then .success else if request.name = "y" then .failure else .panic

/-- The drain of the four keys with two dispatches at a time, and a key that is added
meanwhile. -/
def mixedMoves : List Move :=
  [.poll (.call 0), .send ⟨0, ⟨"pod", "ns-a", "z"⟩, .none, .launched⟩,
    .send ⟨1, ⟨"pod", "ns-b", "w"⟩, .none, .launched⟩, .poll (.call 0),
    .send ⟨2, ⟨"pod", "ns-a", "x"⟩, .none, .launched⟩,
    .land ⟨2, ⟨"pod", "ns-a", "x"⟩, .none, .sent⟩ .success, .add ⟨"pod", "ns-a", "x"⟩,
    .poll (.call 0), .land ⟨0, ⟨"pod", "ns-a", "z"⟩, .none, .sent⟩ .panic,
    .send ⟨3, ⟨"pod", "ns-a", "y"⟩, .none, .launched⟩,
    .land ⟨3, ⟨"pod", "ns-a", "y"⟩, .none, .sent⟩ .failure, .poll (.call 0), .closeCall 0]

def mixed : Flush :=
  begin ((Debouncer.new { maxConcurrentDispatches := 2 } .empty {}).run mixedKeys) (.call .none)
    (.call 0) .none mixedOrder

/-- The moves of the drain, after which nothing happens. -/
def mixedSchedule (count : Nat) : Move := mixedMoves.getD count (.poll .loop)

/-- Of four keys that are taken in another order than they were added in, one has no target, and
the dispatcher decides differently about the others. Each is counted, three are handed over, and
the key that is added meanwhile is pending at the end. -/
theorem report_counts_every_key_mixed :
    mixed.history returned mixedMoves = [⟨4, 1, 1, 1, 1⟩] ∧
    (mixed.history Flush.handed mixedMoves).length = 3 ∧
    (∃ count report, report ∈ mixed.history returned (first mixedSchedule count)) ∧
    (mixed.debouncer.run mixedMoves).queue.keys = [⟨"pod", "ns-a", "x"⟩] := by
  have hverdict : ∀ target request, mixedVerdict target request ≠ .noTarget := by
    intro target request
    unfold mixedVerdict
    split
    · simp
    · split <;> simp
  have hbegins : Begins ((Debouncer.new { maxConcurrentDispatches := 2 } .empty {}).run mixedKeys)
      (.call .none) (.call 0) .none := .call .none
  have horder : mixedOrder.Perm
      ((Debouncer.new { maxConcurrentDispatches := 2 } .empty {}).run mixedKeys).queue.keys := by
    decide +kernel
  have hsteady : mixed.Steady mixedMoves := steady_of_ne_edit (by simp [mixedMoves])
  have hlanded : mixed.history landed mixedMoves =
      [(⟨2, ⟨"pod", "ns-a", "x"⟩, .none, .sent⟩, .success),
        (⟨0, ⟨"pod", "ns-a", "z"⟩, .none, .sent⟩, .panic),
        (⟨3, ⟨"pod", "ns-a", "y"⟩, .none, .sent⟩, .failure)] := by decide +kernel
  have hreturned : mixed.history returned mixedMoves = [⟨4, 1, 1, 1, 1⟩] := by decide +kernel
  have hmoves : first mixedSchedule mixedMoves.length = mixedMoves := by decide +kernel
  have hsite : (mixed.after mixedSchedule mixedMoves.length).site = none := by
    rw [after, hmoves]
    decide +kernel
  have hpatient (count : Nat) :
      mixedSchedule count ≠ .heed ∧ ∀ index, mixedSchedule count ≠ .abandonCall index := by
    have hall : ∀ move ∈ mixedMoves ++ [.poll .loop],
        move ≠ .heed ∧ ∀ index, move ≠ .abandonCall index := by simp [mixedMoves]
    refine hall _ ?_
    rw [mixedSchedule, List.getD_eq_getElem?_getD]
    cases hmove : mixedMoves[count]? with
    | none => simp
    | some move => exact List.mem_append_left _ (List.mem_of_getElem? hmove)
  have hflush := report_counts_every_key { maxConcurrentDispatches := 2 } .empty {} mixedKeys
    mixedVerdict rfl hverdict hbegins horder
  dsimp only at hflush
  rw [← mixed] at hflush
  obtain ⟨hreports, hends, hpending⟩ := hflush
  have hdecided : Decided
      ((Debouncer.new { maxConcurrentDispatches := 2 } .empty {}).run mixedKeys).registry
      mixedVerdict (mixed.history landed mixedMoves) := by
    rw [hlanded]
    simp [Decided, mixedVerdict, Dispatch.request, Delivery.Request.ofKey]
  have hexact := (hreports mixedMoves hsteady hdecided).2 ⟨4, 1, 1, 1, 1⟩ (by
    rw [hreturned]
    exact List.mem_singleton_self _)
  have hbegun : mixed.debouncer.history Debouncer.begun mixedMoves = [] := by decide +kernel
  have hstopped : (mixed.debouncer.run mixedMoves).queue.phase = .stopped →
      mixed.debouncer.queue.phase = .stopped := fun h => absurd h (by decide +kernel)
  have haccepted : mixed.debouncer.history Debouncer.accepted mixedMoves =
      [⟨"pod", "ns-a", "x"⟩] := by decide +kernel
  have hkeys := (hpending mixedMoves hbegun hstopped).1
  refine ⟨hreturned, ?_, hends mixedSchedule (fair_of_ended hsite hpatient), ?_⟩
  · rw [hexact.1.length_eq]
    decide +kernel
  · rw [← haccepted]
    exact hkeys

end Flush

end Rescan.Debounce
