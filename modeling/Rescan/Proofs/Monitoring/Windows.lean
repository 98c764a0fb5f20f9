import Rescan.Proofs.Debounce.Pending
import Rescan.Proofs.Monitoring.Reports

/-! # Windows between drains

A drain takes the keys of just those objects that were listed or applied since the drain before,
however often and in whatever order. What is reported about a notice tells whether its key was
brought up before in the same window.
-/

namespace Rescan

open Rescan.Debounce (Debouncer)
open Rescan.Resource (Key Metadata WatchEvent)
open Rescan.Telemetry (Meter)
open Rescan.Topology (Registry)

namespace Monitoring

/-- The keys of the objects that some moves report to be there. -/
def reported (moves : List Move) : List Key := moves.filterMap Move.key?

/-- The moves of a run since the last drain, or all of them if there was none. The moves before are
followed by further ones. -/
def window (debouncer : Debouncer) (before : List Move) : List Move → List Move
  | [] => before
  | move :: moves =>
    window (step debouncer move) (if begun debouncer move = [] then before ++ [move] else []) moves

theorem window_concat (debouncer : Debouncer) (before moves : List Move) (move : Move) :
    window debouncer before (moves ++ [move]) =
      if begun (run debouncer moves) move = [] then window debouncer before moves ++ [move]
      else [] := by
  induction moves generalizing debouncer before with
  | nil => rfl
  | cons first moves ih => exact ih _ _

/-- A window is the last part of a run, it begins with the run or right after a move that began a
drain, and no move in it begins a drain. -/
theorem window_spec (debouncer : Debouncer) (moves : List Move) :
    ∃ first, moves = first ++ window debouncer [] moves ∧
      (first = [] ∨ ∃ earlier move, first = earlier ++ [move] ∧
        begun (run debouncer earlier) move ≠ []) ∧
      ∀ part move rest, window debouncer [] moves = part ++ move :: rest →
        begun (run debouncer (first ++ part)) move = [] := by
  induction moves using List.reverseRecOn with
  | nil => exact ⟨[], rfl, Or.inl rfl, fun part _ _ hnil => by cases part <;> cases hnil⟩
  | append_singleton moves move ih =>
      obtain ⟨first, hmoves, hfirst, hquiet⟩ := ih
      rw [window_concat]
      by_cases hbegun : begun (run debouncer moves) move = []
      · rw [if_pos hbegun]
        refine ⟨first, by rw [← List.append_assoc, ← hmoves], hfirst, ?_⟩
        intro part other rest hpart
        rcases rest.eq_nil_or_concat with rfl | ⟨rest, last, rfl⟩
        · obtain ⟨rfl, hsame⟩ := List.append_inj' hpart rfl
          cases hsame
          rwa [← hmoves]
        · rw [List.concat_eq_append, ← List.cons_append, ← List.append_assoc] at hpart
          exact hquiet part other rest (List.append_inj' hpart rfl).1
      · rw [if_neg hbegun]
        refine ⟨moves ++ [move], by simp, Or.inr ⟨moves, move, rfl, hbegun⟩, ?_⟩
        exact fun part _ _ hnil => by cases part <;> cases hnil

/-! ## What is pending -/

section Step

variable {debouncer : Debouncer}

/-- As long as no drain begins the pending keys grow by the key that a move reports. -/
theorem mem_keys_step (hsound : debouncer.Sound) {move : Move}
    (hbegun : begun debouncer move = [])
    (hphase : (step debouncer move).queue.phase ≠ .stopped) (key : Key) :
    key ∈ (step debouncer move).queue.keys ↔
      key ∈ debouncer.queue.keys ∨ move.key? = some key := by
  rcases step_cases debouncer move with
    ⟨added, hkey, h⟩ | ⟨inner, hadd, hkey, hsame, h⟩ | ⟨hkey, h⟩
  · have hbefore : debouncer.queue.phase ≠ .stopped := by
      intro hstopped
      exact hphase (step_stopped hsound hstopped move)
    rw [h, hkey, Option.some.injEq, eq_comm (a := added)]
    exact Debouncer.mem_keys_add hbefore added key
  · rw [h] at hphase
    rw [h, hkey, Debouncer.step_keys hsound hadd (hsame ▸ hbegun) hphase]
    simp
  · rw [h, hkey]
    simp

/-- A drain takes all pending keys. -/
theorem begun_cases (hsound : debouncer.Sound) (move : Move) :
    begun debouncer move = [] ∨
      begun debouncer move = [debouncer.queue.keys] ∧ (step debouncer move).queue.keys = [] := by
  cases move with
  | report controller event hstandard => exact Or.inl rfl
  | failure controller => exact Or.inl rfl
  | other inner hmove => exact (debouncer.step_change inner hsound.phase_eq).begun_cases

end Step

section Run

variable {initial : Debouncer} (hsound : initial.Sound)

include hsound

theorem sound_run (moves : List Move) : (run initial moves).Sound :=
  Steps.run_induction hsound fun _ move _ hbefore => sound_step hbefore move

/-- As long as the debouncer is not stopped just the keys are pending that were reported in the
window. -/
theorem mem_keys_run (hempty : initial.queue.keys = []) (moves : List Move)
    (hphase : (run initial moves).queue.phase ≠ .stopped) (key : Key) :
    key ∈ (run initial moves).queue.keys ↔ key ∈ reported (window initial [] moves) := by
  induction moves using List.reverseRecOn with
  | nil =>
      change key ∈ initial.queue.keys ↔ key ∈ []
      rw [hempty]
  | append_singleton moves move ih =>
      rw [run, Steps.run_concat] at hphase ⊢
      rw [window_concat]
      -- A debouncer that was stopped stays so, thus it was not stopped before the last move.
      have hbefore : (run initial moves).queue.phase ≠ .stopped := by
        intro hstopped
        exact hphase (step_stopped (sound_run hsound moves) hstopped move)
      rcases begun_cases (sound_run hsound moves) move with hbegun | ⟨hbegun, hkeys⟩
      · rw [if_pos hbegun, mem_keys_step (sound_run hsound moves) hbegun hphase, ih hbefore,
          reported, reported, List.filterMap_append, List.mem_append]
        simp
      · rw [hkeys, if_neg (by rw [hbegun]; simp)]
        rfl

/-- A drain takes each key once that was reported in the window before it, and no other key. -/
theorem mem_begun_run (hempty : initial.queue.keys = []) {moves : List Move}
    (hphase : (run initial moves).queue.phase ≠ .stopped) {move : Move} {keys : List Key}
    (hkeys : keys ∈ begun (run initial moves) move) :
    keys.Nodup ∧ ∀ key, key ∈ keys ↔ key ∈ reported (window initial [] moves) := by
  rcases begun_cases (sound_run hsound moves) move with hbegun | ⟨hbegun, _⟩
  · rw [hbegun] at hkeys
    cases hkeys
  · rw [hbegun, List.mem_singleton] at hkeys
    subst hkeys
    exact ⟨(run initial moves).queue.nodup, mem_keys_run hsound hempty moves hphase⟩

/-- The key of an object is reported as pending if it was reported in the window before, and as
newly pending otherwise. -/
theorem outcome_announced_run (hempty : initial.queue.keys = []) {moves : List Move}
    (hphase : (run initial moves).queue.phase ≠ .stopped) {controller : Controller}
    (hstandard : controller.Standard) {event : WatchEvent Metadata} {object : Metadata}
    (hobject : event.announced? = some object) :
    (controller.reconcileEvent (run initial moves) event).2 =
      some (if controller.objectKey object ∈ reported (window initial [] moves) then
          .coalesced (controller.objectKey object)
        else .queued (controller.objectKey object)) := by
  rw [hstandard.reconcileEvent_announced (run initial moves) hobject]
  generalize controller.objectKey object = key
  have hnew : ((run initial moves).add key).2 = true ↔
      key ∉ reported (window initial [] moves) := by
    rw [Debouncer.add_new_iff, mem_keys_run hsound hempty moves hphase]
    exact and_iff_right hphase
  by_cases hreported : key ∈ reported (window initial [] moves)
  · rw [if_neg (fun h => hnew.mp h hreported), if_pos hreported]
  · rw [if_pos (hnew.mpr hreported), if_neg hreported]

end Run

theorem mem_reported {moves : List Move} {key : Key} :
    key ∈ reported moves ↔ ∃ controller event hstandard object,
      .report controller event hstandard ∈ moves ∧ event.announced? = some object ∧
        controller.objectKey object = key := by
  rw [reported, List.mem_filterMap]
  constructor
  · rintro ⟨move, hmem, hkey⟩
    cases move with
    | report controller event hstandard =>
        obtain ⟨object, hobject, rfl⟩ := Option.map_eq_some_iff.mp hkey
        exact ⟨controller, event, hstandard, object, hmem, hobject, rfl⟩
    | failure controller => cases hkey
    | other inner hmove => cases hkey
  · rintro ⟨controller, event, hstandard, object, hmem, hobject, rfl⟩
    exact ⟨_, hmem, Option.map_eq_some_iff.mpr ⟨object, hobject, rfl⟩⟩

/-! ## Drains and outcomes -/

/-- Take any run in which the controllers of any number of kinds feed a new debouncer that is not
stopped, and the moves since its last drain, or all moves if there was none. Whoever asks for a
drain now gets one. A drain that begins now takes the key of each object that was listed or applied
in these moves, once, and no other key. The key of an object that is listed or applied now is
reported as pending if the object was reported in these moves, and as newly pending otherwise. A
removal is passed over; neither it nor the bounds of a list nor an error changes anything. If there
are the same reports in the window of another run, in whatever order and however often, its drain
takes the same keys. -/
theorem drain_takes_window (settings : Settings.Debouncer) (registry : Registry) (meter : Meter)
    (moves : List Move)
    (hphase : (run (.new settings registry meter) moves).queue.phase ≠ .stopped) :
    let initial := Debouncer.new settings registry meter
    let current := run initial moves
    let recent := window initial [] moves
    (∃ first, moves = first ++ recent ∧
      (first = [] ∨ ∃ earlier move, first = earlier ++ [move] ∧
        begun (run initial earlier) move ≠ []) ∧
      ∀ part move rest, recent = part ++ move :: rest →
        begun (run initial (first ++ part)) move = []) ∧
    (∀ attribution, begun current (.other (.call attribution)) ≠ []) ∧
    (∀ move, ∀ keys ∈ begun current move, keys.Nodup ∧ ∀ key, key ∈ keys ↔ key ∈ reported recent) ∧
    (∀ controller : Controller, controller.Standard →
      (∀ event object, event.announced? = some object →
        let key := controller.objectKey object
        (controller.reconcileEvent current event).2 =
          some (if key ∈ reported recent then .coalesced key else .queued key)) ∧
      (∀ object, controller.reconcileEvent current (.deleted object) = (current, some .filtered)) ∧
      controller.reconcileEvent current .listBegins = (current, none) ∧
      controller.reconcileEvent current .listEnds = (current, none) ∧
      step current (.failure controller) = current) ∧
    (∀ others, (run initial others).queue.phase ≠ .stopped →
      (∀ controller event hstandard, .report controller event hstandard ∈ window initial [] others ↔
        .report controller event hstandard ∈ recent) →
      ∀ move other, ∀ keys ∈ begun current move, ∀ same ∈ begun (run initial others) other,
        keys.Perm same) := by
  intro initial current recent
  have hinitial : initial.Sound := Debouncer.new_sound settings registry meter
  refine ⟨window_spec initial moves, fun attribution => List.cons_ne_nil _ _, ?_,
    fun controller hstandard => ⟨?_, ?_, rfl, rfl, rfl⟩, ?_⟩
  · exact fun move keys hkeys => mem_begun_run hinitial rfl hphase hkeys
  · intro event object hobject
    exact outcome_announced_run hinitial rfl hphase hstandard hobject
  · exact fun object => hstandard.reconcileEvent_deleted current object
  · intro others hothers hsame move other keys hkeys same hsames
    obtain ⟨hnodup, hmem⟩ := mem_begun_run hinitial rfl hphase hkeys
    obtain ⟨hnodup', hmem'⟩ := mem_begun_run hinitial rfl hothers hsames
    -- Both drains hold the keys of the same reports.
    rw [List.perm_ext_iff_of_nodup hnodup hnodup']
    intro key
    rw [hmem, hmem', mem_reported, mem_reported]
    simp only [hsame]
    rfl

/-- Reports about a pod and a node after a drain that took the pod. -/
def reports : List Move :=
  [.report .ofPods (.applied ⟨"ns-a", "x", none⟩), .other (.call .none),
    .report .ofPods .listBegins, .report .ofPods (.listed ⟨"ns-a", "x", none⟩),
    .report { kind := ⟨"node"⟩ } (.applied ⟨none, "y", none⟩),
    .report .ofPods (.listed ⟨"ns-a", "x", none⟩)]

/-- The same reports in another order, with no drain before them. -/
def shuffled : List Move :=
  [.report { kind := ⟨"node"⟩ } (.applied ⟨none, "y", none⟩),
    .report .ofPods (.listed ⟨"ns-a", "x", none⟩), .report .ofPods .listBegins]

/-- The drains of the two runs take the same keys. -/
theorem drain_takes_window_shuffled :
    (run (.new {} .empty {}) reports).queue.phase ≠ .stopped ∧
      (run (.new {} .empty {}) shuffled).queue.phase ≠ .stopped ∧
      begun (run (.new {} .empty {}) reports) (.other (.call .none)) =
        [[⟨"pod", "ns-a", "x"⟩, ⟨"node", "", "y"⟩]] ∧
      begun (run (.new {} .empty {}) shuffled) (.other (.call .none)) =
        [[⟨"node", "", "y"⟩, ⟨"pod", "ns-a", "x"⟩]] ∧
      List.Perm [(⟨"pod", "ns-a", "x"⟩ : Key), ⟨"node", "", "y"⟩]
        [⟨"node", "", "y"⟩, ⟨"pod", "ns-a", "x"⟩] := by
  have hphase : (run (.new {} .empty {}) reports).queue.phase ≠ .stopped := by decide +kernel
  have hshuffled : (run (.new {} .empty {}) shuffled).queue.phase ≠ .stopped := by decide +kernel
  have hkeys : begun (run (.new {} .empty {}) reports) (.other (.call .none)) =
      [[⟨"pod", "ns-a", "x"⟩, ⟨"node", "", "y"⟩]] := by
    decide +kernel
  have hothers : begun (run (.new {} .empty {}) shuffled) (.other (.call .none)) =
      [[⟨"node", "", "y"⟩, ⟨"pod", "ns-a", "x"⟩]] := by
    decide +kernel
  have hwindow : window (.new {} .empty {}) [] reports = reports.drop 2 := rfl
  have hwhole : window (.new {} .empty {}) [] shuffled = shuffled := rfl
  obtain ⟨_, _, _, _, hsame⟩ := drain_takes_window {} .empty {} reports hphase
  refine ⟨hphase, hshuffled, hkeys, hothers, hsame shuffled hshuffled ?_ (.other (.call .none))
    (.other (.call .none)) _ (hkeys ▸ List.mem_singleton_self _) _
    (hothers ▸ List.mem_singleton_self _)⟩
  intro controller event hstandard
  rw [hwindow, hwhole]
  simp only [reports, shuffled, List.drop, List.mem_cons, List.not_mem_nil, or_false]
  tauto

end Monitoring

end Rescan
