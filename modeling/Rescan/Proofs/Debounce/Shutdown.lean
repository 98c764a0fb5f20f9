import Mathlib.Data.List.Induction
import Mathlib.Data.List.Perm.Subperm
import Rescan.Proofs.Debounce.Handing
import Rescan.Proofs.Debounce.LoopRun

/-! # Shutdown

Once the loop was asked to end it begins no further drain, and its next turn stops the debouncer
for good. What is handed over after that are dispatches that the drain given up then had launched
before.
-/

namespace Rescan.Debounce

open Rescan.Resource (Key)
open Rescan.Telemetry (Meter)
open Rescan.Topology (Registry)

namespace Debouncer

/-! ## A stopped debouncer -/

/-- A stopped debouncer stays stopped. -/
theorem step_stopped {debouncer : Debouncer} (hsound : debouncer.Sound)
    (hstopped : debouncer.queue.phase = .stopped) (move : Move) :
    (debouncer.step move).queue.phase = .stopped := by
  rcases debouncer.step_phase_cases move with
    ⟨hqueue, _⟩ | ⟨_, huninitialized, _⟩ | ⟨_, _, hrunning, _⟩
  · rw [hqueue, hstopped]
  · rw [hstopped] at huninitialized
    cases huninitialized
  · rw [← hsound.phase_eq, hstopped] at hrunning
    cases hrunning

theorem run_stopped {debouncer : Debouncer} (hsound : debouncer.Sound)
    (hstopped : debouncer.queue.phase = .stopped) (moves : List Move) :
    (debouncer.run moves).queue.phase = .stopped :=
  (Steps.run_induction (P := fun other : Debouncer => other.Sound ∧ other.queue.phase = .stopped)
    ⟨hsound, hstopped⟩ fun _ move _ h => ⟨h.1.step move, step_stopped h.1 h.2 move⟩).2

/-- A stopped debouncer ignores keys altogether. -/
theorem add_stopped {debouncer : Debouncer} (hstopped : debouncer.queue.phase = .stopped)
    (key : Key) : debouncer.add key = (debouncer, false) := by
  have haccepts : debouncer.queue.accepts = false := by rw [Queue.accepts, hstopped]; rfl
  simp only [add, Queue.add, dif_pos hstopped, haccepts, Bool.false_eq_true, if_false]

/-- A stopped debouncer cannot be started again. -/
theorem start_stopped {debouncer : Debouncer} (hsound : debouncer.Sound)
    (hstopped : debouncer.queue.phase = .stopped) (now : Nat) (attribution : Attribution) :
    debouncer.start now attribution = .error (.alreadyStarted .stopped) := by
  have hcheck := hsound.checked (by rw [hstopped]; decide)
  simp only [start, hcheck, Queue.start, hstopped, reduceCtorEq, if_false]

/-! ## Where the keys of a drain come from -/

/-- The run ends in a state in which the key has been pending since it was last accepted. -/
def PendingSince (debouncer : Debouncer) (moves : List Move) (key : Key) : Prop :=
  ∃ earlier later, moves = earlier ++ .add key :: later ∧
    ((debouncer.run earlier).add key).2 = true ∧
    ∀ part, part <+: later →
      (debouncer.run (earlier ++ .add key :: part)).queue.isPending key = true

theorem PendingSince.snoc {debouncer : Debouncer} {moves : List Move} {key : Key}
    (hsince : PendingSince debouncer moves key) {move : Move}
    (hpending : (debouncer.run (moves ++ [move])).queue.isPending key = true) :
    PendingSince debouncer (moves ++ [move]) key := by
  obtain ⟨earlier, later, rfl, haccepted, hparts⟩ := hsince
  refine ⟨earlier, later ++ [move], by simp, haccepted, fun part hpart => ?_⟩
  rcases List.prefix_concat_iff.mp hpart with rfl | hpart
  · simpa using hpending
  · exact hparts part hpart

theorem eq_add_of_mem_accepted {debouncer : Debouncer} {move : Move} {key : Key}
    (hmem : key ∈ debouncer.accepted move) : move = .add key ∧ (debouncer.add key).2 = true := by
  cases move with
  | add new =>
      simp only [accepted] at hmem
      split at hmem
      next hnew =>
        obtain rfl := List.mem_singleton.mp hmem
        exact ⟨rfl, hnew⟩
      · cases hmem
  | _ => cases hmem

/-- Every pending key is pending since an add. -/
theorem pendingSince_of_isPending {debouncer : Debouncer} (hsound : debouncer.Sound)
    (hempty : debouncer.queue.keys = []) (moves : List Move) {key : Key}
    (hpending : (debouncer.run moves).queue.isPending key = true) :
    PendingSince debouncer moves key := by
  induction moves using List.reverseRecOn with
  | nil => simp [Queue.isPending, hempty] at hpending
  | append_singleton moves move ih =>
      have hmem : key ∈ ((debouncer.run moves).step move).queue.keys := by
        rw [← Steps.run_concat step]
        exact List.contains_iff_mem.mp hpending
      have hkept (h : key ∈ (debouncer.run moves).queue.keys) :
          PendingSince debouncer (moves ++ [move]) key :=
        (ih (List.contains_iff_mem.mpr h)).snoc hpending
      cases (debouncer.run moves).step_change move (hsound.run moves).phase_eq with
      | queued new haccepted _ _ hkeys =>
          rw [hkeys, List.mem_append, List.mem_singleton] at hmem
          rcases hmem with hmem | rfl
          · exact hkept hmem
          · obtain ⟨rfl, hnew⟩ := eq_add_of_mem_accepted (haccepted ▸ List.mem_singleton_self key)
            exact ⟨moves, [], rfl, hnew, fun part hpart => by
              rwa [List.prefix_nil.mp hpart]⟩
      | kept _ hkeys => exact hkept (hkeys ▸ hmem)
      | began _ _ _ _ _ _ hkeys => rw [hkeys] at hmem; cases hmem
      | polled _ _ _ _ hkeys => exact hkept (hkeys ▸ hmem)
      | closed _ _ _ _ _ hkeys => exact hkept (hkeys ▸ hmem)
      | abandoned _ _ _ _ _ _ hkeys => exact hkept (hkeys ▸ hmem)
      | stopped _ _ _ _ hkeys => rw [hkeys] at hmem; cases hmem
      | advanced _ _ _ _ hkeys => exact hkept (hkeys ▸ hmem)

/-- The drain began at the tick right after the first part of the run, with the keys that were
pending then, and no drain began since. -/
def BegunAfter (debouncer : Debouncer) (moves first : List Move) (drain : Drain) : Prop :=
  ∃ now last, moves = first ++ .tick now :: last ∧
    (debouncer.run first).begun (.tick now) = [(debouncer.run first).queue.keys] ∧
    (debouncer.run (first ++ [.tick now])).history begun last = [] ∧
    ∀ key ∈ drain.waiting ++ drain.dispatches.map Dispatch.key,
      (debouncer.run first).queue.isPending key = true

theorem BegunAfter.snoc {debouncer : Debouncer} {moves first : List Move} {drain later : Drain}
    (hfirst : BegunAfter debouncer moves first drain) {move : Move}
    (hbegun : (debouncer.run moves).begun move = [])
    (hkeys : ∀ key ∈ later.waiting ++ later.dispatches.map Dispatch.key,
      key ∈ drain.waiting ++ drain.dispatches.map Dispatch.key) :
    BegunAfter debouncer (moves ++ [move]) first later := by
  obtain ⟨now, last, rfl, htick, hquiet, hpending⟩ := hfirst
  refine ⟨now, last ++ [move], by simp, htick, ?_, fun key hkey => hpending key (hkeys key hkey)⟩
  have hrun : (debouncer.run (first ++ [.tick now])).run last =
      debouncer.run (first ++ .tick now :: last) := by simp
  simp only [Steps.history_append, hquiet, hrun, Steps.history_cons, hbegun, Steps.history_nil,
    List.append_nil]

/-- While the loop is draining it begins no drain. -/
theorem begun_eq_nil_of_drain {debouncer : Debouncer} {drain : Drain}
    (hdrain : debouncer.drain? .loop = some drain) {move : Move}
    (hmove : ∀ attribution, move ≠ .call attribution) : debouncer.begun move = [] := by
  cases move with
  | tick now =>
      cases hloop : debouncer.loop with
      | idle attribution ticker => simp only [drain?, hloop, reduceCtorEq] at hdrain
      | _ => simp only [begun, hloop]
  | call attribution => exact absurd rfl (hmove attribution)
  | _ => rfl

/-- When no caller drains, every drain began at a tick. -/
theorem exists_begunAfter {debouncer : Debouncer} (hsound : debouncer.Sound)
    (honly : debouncer.LoopOnly) (hnone : debouncer.drain? .loop = none) (moves : List Move)
    (hmoves : ∀ move ∈ moves, ∀ attribution, move ≠ .call attribution) {drain : Drain}
    (hdrain : (debouncer.run moves).drain? .loop = some drain) :
    ∃ first, BegunAfter debouncer moves first drain := by
  induction moves using List.reverseRecOn generalizing drain with
  | nil => cases hnone.symm.trans hdrain
  | append_singleton moves move ih =>
      have hearlier : ∀ other ∈ moves, ∀ attribution, other ≠ .call attribution :=
        fun other hother => hmoves other (List.mem_append_left _ hother)
      have hmove : ∀ attribution, move ≠ .call attribution :=
        hmoves move (List.mem_append_right _ (List.mem_singleton_self move))
      have hmem : drain ∈ ((debouncer.run moves).step move).drains := by
        have hafter := (honly.run hmoves).drains_eq
        rw [hdrain, Option.toList_some] at hafter
        rw [← Steps.run_concat step]
        exact hafter ▸ List.mem_singleton_self drain
      -- The loop goes on with a drain that it has, so that this is not a beginning.
      have hgoOn (other : Drain) (hother : other ∈ (debouncer.run moves).drains)
          (hkeys : ∀ key ∈ drain.waiting ++ drain.dispatches.map Dispatch.key,
            key ∈ other.waiting ++ other.dispatches.map Dispatch.key) :
          ∃ first, BegunAfter debouncer (moves ++ [move]) first drain := by
        rw [(honly.run hearlier).drains_eq, Option.mem_toList] at hother
        obtain ⟨first, hfirst⟩ := ih hearlier hother
        exact ⟨first, hfirst.snoc (begun_eq_nil_of_drain hother hmove) hkeys⟩
      rcases ((debouncer.run moves).step_change move (hsound.run moves).phase_eq).mem_drains hmem
        with hmem | ⟨hbegun, attribution, rfl⟩ | ⟨other, hother, hgone⟩
      · exact hgoOn drain hmem fun _ hkey => hkey
      · cases move with
        | tick now =>
            refine ⟨moves, now, [], rfl, hbegun, rfl, fun key hkey => ?_⟩
            rw [Drain.ofKeys, List.map_nil, List.append_nil] at hkey
            exact List.contains_iff_mem.mpr hkey
        | call attribution => exact absurd rfl (hmove attribution)
        | _ => cases hbegun
      · refine hgoOn other hother fun key hkey => ?_
        rcases hgone with ⟨rfl, _⟩ | ⟨number, stage, _, rfl⟩
        · exact other.collect_keys.subset ((other.collect.launch_keys _ _).subset hkey)
        · rwa [other.advance_keys] at hkey

/-! ## The end of the loop -/

/-- The loop ended right after the first part of the run, since it was asked to, and gave up the
drain. -/
def GivenUpAfter (debouncer : Debouncer) (moves first : List Move) (drain : Drain) : Prop :=
  ∃ last, moves = first ++ .heed :: last ∧ (debouncer.run first).cancelled = true ∧
    (debouncer.run first).drain? .loop = some drain ∧
    (debouncer.run (first ++ [.heed])).loop = .ended

/-- A debouncer becomes stopped when its loop looks and finds that it is to end. -/
theorem exists_stop {debouncer : Debouncer} (hsound : debouncer.Sound)
    (hfirst : debouncer.queue.phase ≠ .stopped) (moves : List Move)
    (hstopped : (debouncer.run moves).queue.phase = .stopped) :
    ∃ first last, moves = first ++ .heed :: last ∧ (debouncer.run first).cancelled = true ∧
      (debouncer.run first).queue.phase ≠ .stopped ∧
      (debouncer.run first).step .heed = (debouncer.run first).stop := by
  induction moves using List.reverseRecOn with
  | nil => exact absurd hstopped hfirst
  | append_singleton moves move ih =>
      simp only [Steps.run_append, Steps.run_cons, Steps.run_nil] at hstopped
      rcases (debouncer.run moves).step_phase_cases move with
        ⟨hqueue, _⟩ | ⟨_, _, hrunning, _⟩ | ⟨rfl, hcancelled, hrunning, hstop⟩
      · obtain ⟨first, last, rfl, hstop⟩ := ih (hqueue.symm.trans hstopped)
        exact ⟨first, last ++ [move], by simp, hstop⟩
      · rw [hrunning] at hstopped
        cases hstopped
      · refine ⟨moves, [], rfl, hcancelled, ?_, hstop⟩
        rw [(hsound.run moves).phase_eq, hrunning]
        decide

/-- A stopped debouncer launches nothing when no caller drains. -/
theorem launched_stopped {debouncer : Debouncer} (hsound : debouncer.Sound)
    (honly : debouncer.LoopOnly) (hstopped : debouncer.queue.phase = .stopped) {moves : List Move}
    (hmoves : ∀ move ∈ moves, ∀ attribution, move ≠ .call attribution) :
    debouncer.history launched moves = [] := by
  rw [List.eq_nil_iff_forall_not_mem]
  intro dispatch hmem
  obtain ⟨first, move, last, rfl, hnew⟩ := Steps.exists_of_mem_history hmem
  have hfirst := honly.run fun other hother => hmoves other (List.mem_append_left _ hother)
  obtain ⟨drain, hdrain, _⟩ := waiting_of_mem_launched (hsound.run first) hnew
  rw [hfirst.drains_eq_nil (hsound.run first) (run_stopped hsound hstopped first)] at hdrain
  cases hdrain

/-- What a stopped debouncer hands over when no caller drains it had when it stopped. -/
theorem count_handed_stopped {debouncer : Debouncer} (hsound : debouncer.Sound)
    (honly : debouncer.LoopOnly) (hstopped : debouncer.queue.phase = .stopped) {moves : List Move}
    (hmoves : ∀ move ∈ moves, ∀ attribution, move ≠ .call attribution) {dispatch : Dispatch}
    (hlaunched : dispatch.stage = .launched) :
    ((debouncer.history handed moves).map Prod.fst).count dispatch +
        (debouncer.run moves).dispatches.count dispatch ≤
      debouncer.dispatches.count dispatch := by
  have hrun := count_handed_run hsound moves hlaunched
  rwa [launched_stopped hsound honly hstopped hmoves] at hrun

/-- What is handed over after the end of the loop are dispatches of the drain that it gave up. -/
theorem subperm_handed_after_stop {before : Debouncer} (hsound : before.Sound)
    (honly : before.LoopOnly) (hrunning : before.queue.phase ≠ .stopped)
    (hstop : before.step .heed = before.stop) {last later : List Move}
    (hmoves : ∀ move ∈ last ++ later, ∀ attribution, move ≠ .call attribution) :
    (((before.stop.run last).history handed later).map Prod.fst).Subperm
      ((before.drain? .loop).toList.flatMap Drain.dispatches) := by
  have hended : before.stop.Sound := hstop ▸ hsound.step .heed
  have hendedOnly : before.stop.LoopOnly := hstop ▸ honly.step (by simp)
  have hleft : before.stop.dispatches =
      (before.drain? .loop).toList.flatMap Drain.dispatches := by
    rw [dispatches_eq, hendedOnly.drains_eq_nil hended rfl, stop, honly.strays_eq hrunning]
    rfl
  rw [List.subperm_ext_iff]
  intro dispatch hmem
  obtain ⟨entry, hentry, rfl⟩ := List.mem_map.mp hmem
  obtain ⟨_, move, _, _, hhanded⟩ := Steps.exists_of_mem_history hentry
  have hlaunched := (mem_handed hhanded).2.2.1
  have hcount := count_handed_stopped hended hendedOnly rfl hmoves hlaunched
  simp only [run, history, Steps.history_append, List.map_append, List.count_append, hleft]
    at hcount ⊢
  omega

/-- After a run in which only the loop drains and which leaves the debouncer stopped, all that is
still handed over are dispatches of the drain that the loop gave up. -/
theorem handed_after_stop {initial : Debouncer} (hsound : initial.Sound)
    (honly : initial.LoopOnly) (hfresh : initial.loop = .absent)
    (hempty : initial.queue.keys = []) {earlier later : List Move}
    (hearlier : ∀ move ∈ earlier, ∀ attribution, move ≠ .call attribution)
    (hlater : ∀ move ∈ later, ∀ attribution, move ≠ .call attribution)
    (hstopped : (initial.run earlier).queue.phase = .stopped) :
    let sent := ((initial.run earlier).history handed later).map Prod.fst
    sent = [] ∨ ∃ first beginning drain, GivenUpAfter initial earlier first drain ∧
      BegunAfter initial first beginning drain ∧ sent.Subperm drain.dispatches ∧
      sent.length ≤ initial.settings.maxConcurrentDispatches ∧ (sent.map Dispatch.key).Nodup ∧
      ∀ dispatch ∈ sent, PendingSince initial beginning dispatch.key := by
  intro sent
  have hphase : initial.queue.phase ≠ .stopped := by
    rw [hsound.phase_eq, hfresh]
    decide
  obtain ⟨first, last, rfl, hcancelled, hrunning, hstop⟩ :=
    exists_stop hsound hphase earlier hstopped
  have hfirstMoves : ∀ move ∈ first, ∀ attribution, move ≠ .call attribution :=
    fun move hmem => hearlier move (List.mem_append_left _ hmem)
  have hfirst := honly.run hfirstMoves
  have hmoves : ∀ move ∈ last ++ later, ∀ attribution, move ≠ .call attribution := by
    intro move hmem
    rcases List.mem_append.mp hmem with hmem | hmem
    · exact hearlier move (List.mem_append_right _ (List.mem_cons_of_mem _ hmem))
    · exact hlater move hmem
  have hrun : initial.run (first ++ .heed :: last) = (initial.run first).stop.run last := by
    simp only [Steps.run_append, Steps.run_cons, hstop]
  have hsent := subperm_handed_after_stop (hsound.run first) hfirst hrunning hstop hmoves
  rw [← hrun] at hsent
  cases hdrain : (initial.run first).drain? .loop with
  | none =>
      rw [hdrain] at hsent
      exact Or.inl (List.subperm_nil.mp hsent)
  | some drain =>
      right
      have hsub : sent.Subperm drain.dispatches := by
        rwa [hdrain, Option.toList_some, List.flatMap_singleton] at hsent
      have hmem : drain ∈ (initial.run first).drains := by
        rw [hfirst.drains_eq, hdrain]
        exact List.mem_singleton_self drain
      obtain ⟨beginning, hbeginning⟩ := exists_begunAfter hsound honly
        (by rw [drain?, hfresh]) first hfirstMoves hdrain
      refine ⟨first, beginning, drain, ⟨last, rfl, hcancelled, hdrain, ?_⟩, hbeginning, hsub,
        ?_, ?_, ?_⟩
      · simp only [Steps.run_append, Steps.run_cons, Steps.run_nil, hstop]
        rfl
      · rw [← run_settings initial first]
        exact Nat.le_trans hsub.length_le ((hsound.run first).bounded drain hmem)
      · obtain ⟨list, hperm, hsublist⟩ := hsub
        have hdistinct := (List.nodup_append.mp ((hsound.run first).distinct drain hmem)).2.1
        exact (hperm.map Dispatch.key).nodup_iff.mp (hdistinct.sublist (hsublist.map _))
      · intro dispatch hdispatch
        obtain ⟨_, _, _, _, _, hpending⟩ := hbeginning
        exact pendingSince_of_isPending hsound hempty beginning (hpending dispatch.key
          (List.mem_append_right _ (List.mem_map_of_mem (hsub.subset hdispatch))))

/-- After the loop was asked to end no drain begins. -/
theorem begun_of_cancelled {debouncer : Debouncer} (hcancelled : debouncer.cancelled = true)
    (acts : List Act) : debouncer.history begun (Act.spell acts) = [] := by
  induction acts generalizing debouncer with
  | nil => rfl
  | cons act acts ih =>
      have hact : debouncer.history begun act.moves = [] := by
        cases act with
        | turn now later => exact (run_turn_of_cancelled hcancelled now later).2
        | _ => rfl
      simp only [Act.spell, List.flatMap_cons, Steps.history_append, hact, List.nil_append]
      exact ih (run_cancelled hcancelled act.moves)

/-- The next turn of a loop that was asked to end stops the debouncer. -/
theorem turn_of_cancelled {debouncer : Debouncer} (hsound : debouncer.Sound)
    (hcancelled : debouncer.cancelled = true) (hloop : debouncer.loop ≠ .absent) (now : Nat)
    (later : List Nat) :
    (debouncer.run (Act.turn now later).moves).loop = .ended ∧
      (debouncer.run (Act.turn now later).moves).queue.phase = .stopped := by
  rw [(run_turn_of_cancelled hcancelled now later).1]
  have hphase := hsound.phase_eq
  unfold heed
  split
  · rw [if_pos hcancelled]
    exact ⟨rfl, rfl⟩
  · rw [if_pos hcancelled]
    exact ⟨rfl, rfl⟩
  next habsent => exact absurd habsent hloop
  next hended =>
    rw [hended] at hphase
    exact ⟨hended, hphase⟩

/-- Take any run of a new debouncer in which only the loop drains. From the moment at which the
loop is asked to end no drain begins, and the next turn of the loop, if it was started, stops the
debouncer. From any moment at which the debouncer is stopped it stays so and nothing is pending;
adding a key is refused and changes nothing, and starting is refused. What is still handed over
are dispatches that the drain given up by the loop had launched, no more than may be under way at
once, one for each key at most, and each for a key that had been pending, since it was last
accepted, when that drain began. -/
theorem shutdown_is_final (settings : Settings.Debouncer) (registry : Registry) (meter : Meter)
    (earlier later : List Act) :
    let initial := new settings registry meter
    (let cancelled := initial.run (Act.spell (earlier ++ [.cancel]))
      let current := cancelled.run (Act.spell later)
      cancelled.history begun (Act.spell later) = [] ∧
      (current.loop ≠ .absent → ∀ now more,
        (current.run (Act.turn now more).moves).loop = .ended ∧
        (current.run (Act.turn now more).moves).queue.phase = .stopped)) ∧
    (let stopped := initial.run (Act.spell earlier)
      let current := stopped.run (Act.spell later)
      let sent := (stopped.history handed (Act.spell later)).map Prod.fst
      stopped.queue.phase = .stopped →
        current.queue.phase = .stopped ∧ current.queue.keys = [] ∧
        (∀ key, current.add key = (current, false)) ∧
        (∀ now attribution, current.start now attribution = .error (.alreadyStarted .stopped)) ∧
        (sent = [] ∨ ∃ first beginning drain,
          GivenUpAfter initial (Act.spell earlier) first drain ∧
          BegunAfter initial first beginning drain ∧ sent.Subperm drain.dispatches ∧
          sent.length ≤ settings.maxConcurrentDispatches ∧ (sent.map Dispatch.key).Nodup ∧
          ∀ dispatch ∈ sent, PendingSince initial beginning dispatch.key)) := by
  intro initial
  have hsound : initial.Sound := new_sound settings registry meter
  constructor
  · intro cancelled current
    have hcancelled : cancelled.cancelled = true := by
      change (initial.run (Act.spell (earlier ++ [.cancel]))).cancelled = true
      simp only [Act.spell_append, Steps.run_append]
      rfl
    refine ⟨begun_of_cancelled hcancelled later, fun hloop now more => ?_⟩
    exact turn_of_cancelled ((hsound.run _).run _) (run_cancelled hcancelled _) hloop now more
  · intro stopped current sent hstopped
    have hcurrent : current.queue.phase = .stopped := run_stopped (hsound.run _) hstopped _
    refine ⟨hcurrent, current.queue.keys_eq_nil hcurrent, fun key => add_stopped hcurrent key,
      fun now attribution => start_stopped ((hsound.run _).run _) hcurrent now attribution, ?_⟩
    exact handed_after_stop hsound (new_loopOnly settings registry meter) rfl rfl
      (fun _ => Act.ne_call_of_mem_spell) (fun _ => Act.ne_call_of_mem_spell) hstopped

/-- Acts after which the loop is in the middle of a drain with one dispatch. -/
def midway : List Act :=
  [.edit (.put "ns-a" ⟨{ scheme := "http", path := .segments [] }, none⟩),
    .add ⟨"pod", "ns-a", "x"⟩, .start 0 .none, .turn 5000 []]

/-- Acts that ask the loop to end in the middle of the drain and give it its turn. -/
def interrupted : List Act := midway ++ [.cancel, .turn 5001 []]

/-- Acts after the end: a key comes too late, and the dispatch of the drain has its turn. -/
def aftermath : List Act :=
  [.add ⟨"pod", "ns-a", "y"⟩, .send ⟨0, ⟨"pod", "ns-a", "x"⟩, .none, .launched⟩]

/-- The loop ends in the middle of a drain. The dispatch that the drain had launched is handed
over afterwards, for a key that was pending since it was accepted. -/
theorem shutdown_is_final_interrupted :
    (((new {} .empty {}).run (Act.spell (midway ++ [.cancel]))).run
      (Act.turn 5001 []).moves).queue.phase = .stopped ∧
    ((new {} .empty {}).run (Act.spell interrupted)).queue.phase = .stopped ∧
    (((new {} .empty {}).run (Act.spell interrupted)).history handed
      (Act.spell aftermath)).map Prod.fst = [⟨0, ⟨"pod", "ns-a", "x"⟩, .none, .launched⟩] ∧
    ∃ beginning, PendingSince (new {} .empty {}) beginning ⟨"pod", "ns-a", "x"⟩ := by
  have hloop : ((new {} .empty {}).run (Act.spell (midway ++ [.cancel]))).loop ≠ .absent := by
    decide +kernel
  have hstopped : ((new {} .empty {}).run (Act.spell interrupted)).queue.phase = .stopped := by
    decide +kernel
  have hsent : (((new {} .empty {}).run (Act.spell interrupted)).history handed
      (Act.spell aftermath)).map Prod.fst = [⟨0, ⟨"pod", "ns-a", "x"⟩, .none, .launched⟩] := by
    decide +kernel
  have hend := (shutdown_is_final {} .empty {} midway []).1.2 hloop 5001 []
  have hleft := ((shutdown_is_final {} .empty {} interrupted aftermath).2 hstopped).2.2.2.2
  refine ⟨hend.2, hstopped, hsent, ?_⟩
  rw [hsent] at hleft
  rcases hleft with hnone | ⟨_, beginning, _, _, _, _, _, _, hpending⟩
  · cases hnone
  · exact ⟨beginning, hpending _ (List.mem_singleton_self _)⟩

end Debouncer

end Rescan.Debounce
