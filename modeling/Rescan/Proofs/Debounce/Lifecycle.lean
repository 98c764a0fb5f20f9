import Rescan.Probe
import Rescan.Proofs.Debounce.Shutdown

/-! # The life of a debouncer

A debouncer is uninitialized, then runs, then is stopped, and never goes back. At most one start
succeeds, and one that fails changes nothing. Probes of the readiness see the phases in this order,
also when they read one part of their answer after another.
-/

namespace Rescan.Debounce

open Rescan.Resource (Key)
open Rescan.Telemetry (Meter)
open Rescan.Topology (Registry)

namespace Phase

/-- The place of a phase in the life of a debouncer. -/
def rank : Phase → Nat
  | .uninitialized => 0
  | .running => 1
  | .stopped => 2

theorem eq_replicate_of_pairwise {phases : List Phase}
    (hsorted : phases.Pairwise fun first second => first.rank ≤ second.rank) :
    ∃ before during after, phases = List.replicate before .uninitialized ++
      List.replicate during .running ++ List.replicate after .stopped := by
  induction phases with
  | nil => exact ⟨0, 0, 0, rfl⟩
  | cons phase rest ih =>
      obtain ⟨hphase, hrest⟩ := List.pairwise_cons.mp hsorted
      obtain ⟨before, during, after, rfl⟩ := ih hrest
      -- A phase is not followed by an earlier one, so that the earlier blocks are empty.
      have hbefore : phase ≠ .uninitialized → before = 0 := by
        intro hne
        by_contra hpositive
        have hrank := hphase .uninitialized (by simp [hpositive])
        cases phase <;> simp_all [rank]
      have hduring : phase = .stopped → during = 0 := by
        rintro rfl
        by_contra hpositive
        have hrank := hphase .running (by simp [hpositive])
        simp [rank] at hrank
      cases phase with
      | uninitialized => exact ⟨before + 1, during, after, rfl⟩
      | running =>
          obtain rfl := hbefore (by simp)
          exact ⟨0, during + 1, after, rfl⟩
      | stopped =>
          obtain rfl := hbefore (by simp)
          obtain rfl := hduring rfl
          exact ⟨0, 0, after + 1, rfl⟩

end Phase

namespace Debouncer

/-! ## The phases of a run -/

/-- A move keeps the phase, or it starts the debouncer, or it stops the one that runs. -/
theorem queue_phase_step {debouncer : Debouncer} (hsound : debouncer.Sound) (move : Move) :
    (debouncer.step move).queue.phase = debouncer.queue.phase ∨
      (debouncer.queue.phase = .uninitialized ∧ (debouncer.step move).queue.phase = .running) ∨
      (debouncer.queue.phase = .running ∧ (debouncer.step move).queue.phase = .stopped) := by
  rcases debouncer.step_phase_cases move with
    ⟨hqueue, _⟩ | ⟨_, huninitialized, hrunning, _⟩ | ⟨_, _, hrunning, hstop⟩
  · exact Or.inl hqueue
  · exact Or.inr (Or.inl ⟨huninitialized, hrunning⟩)
  · rw [hstop, hsound.phase_eq, hrunning]
    exact Or.inr (Or.inr ⟨rfl, rfl⟩)

theorem rank_le_run {debouncer : Debouncer} (hsound : debouncer.Sound) (moves : List Move) :
    debouncer.queue.phase.rank ≤ (debouncer.run moves).queue.phase.rank := by
  refine (Steps.run_induction (P := fun other : Debouncer => other.Sound ∧
    debouncer.queue.phase.rank ≤ other.queue.phase.rank) ⟨hsound, Nat.le_refl _⟩ ?_).2
  intro before move _ ⟨hbefore, hrank⟩
  refine ⟨hbefore.step move, Nat.le_trans hrank ?_⟩
  rcases queue_phase_step hbefore move with h | ⟨h, h'⟩ | ⟨h, h'⟩
  · exact Nat.le_of_eq (congrArg Phase.rank h.symm)
  · rw [h, h']
    decide
  · rw [h, h']
    decide

/-- A debouncer that was started never is uninitialized again. -/
theorem phase_run_ne {debouncer : Debouncer} (hsound : debouncer.Sound)
    (hphase : debouncer.queue.phase ≠ .uninitialized) (moves : List Move) :
    (debouncer.run moves).queue.phase ≠ .uninitialized := by
  intro huninitialized
  have hrank := rank_le_run hsound moves
  rw [huninitialized] at hrank
  cases hbefore : debouncer.queue.phase <;> simp_all [Phase.rank]

/-- The states at the ends of successive parts of a run. -/
def states (debouncer : Debouncer) : List (List Move) → List Debouncer
  | [] => []
  | part :: parts => debouncer.run part :: (debouncer.run part).states parts

theorem exists_run_of_mem_states {debouncer other : Debouncer} {parts : List (List Move)}
    (hmem : other ∈ debouncer.states parts) : ∃ moves, other = debouncer.run moves := by
  induction parts generalizing debouncer with
  | nil => cases hmem
  | cons part parts ih =>
      rcases List.mem_cons.mp hmem with rfl | hmem
      · exact ⟨part, rfl⟩
      · obtain ⟨moves, rfl⟩ := ih hmem
        exact ⟨part ++ moves, (Steps.run_append ..).symm⟩

/-- Whoever looks at a debouncer again and again sees its phases in order. -/
theorem pairwise_rank_states {debouncer : Debouncer} (hsound : debouncer.Sound)
    (parts : List (List Move)) :
    ((debouncer.states parts).map fun other => other.queue.phase).Pairwise
      fun first second => first.rank ≤ second.rank := by
  rw [List.pairwise_map]
  induction parts generalizing debouncer with
  | nil => exact .nil
  | cons part parts ih =>
      refine List.pairwise_cons.mpr ⟨fun other hother => ?_, ih (hsound.run part)⟩
      obtain ⟨moves, rfl⟩ := exists_run_of_mem_states hother
      exact rank_le_run (hsound.run part) moves

/-! ## Starts -/

section Start

variable (debouncer : Debouncer) (now : Nat) (attribution : Attribution)

/-- A start looks at the settings first, then at the phase. -/
theorem start_cases :
    (∃ fault, debouncer.settings.check = .error fault ∧
      debouncer.start now attribution = .error (.invalidSettings fault)) ∨
    (debouncer.settings.check = .ok () ∧ debouncer.queue.phase ≠ .uninitialized ∧
      debouncer.start now attribution = .error (.alreadyStarted debouncer.queue.phase)) ∨
    (debouncer.settings.check = .ok () ∧ debouncer.queue.phase = .uninitialized ∧
      ∃ started, debouncer.start now attribution = .ok started) := by
  cases hcheck : debouncer.settings.check with
  | error fault => exact Or.inl ⟨fault, rfl, by simp only [start, hcheck]⟩
  | ok _ =>
      refine Or.inr ?_
      by_cases hphase : debouncer.queue.phase = .uninitialized
      · refine Or.inr ⟨rfl, hphase, ?_⟩
        simp only [start, hcheck, Queue.start, if_pos hphase]
        exact ⟨_, rfl⟩
      · exact Or.inl ⟨rfl, hphase, by simp only [start, hcheck, Queue.start, if_neg hphase]⟩

theorem start_eq_invalidSettings_iff (fault : Settings.Fault) :
    debouncer.start now attribution = .error (.invalidSettings fault) ↔
      debouncer.settings.check = .error fault := by
  rcases debouncer.start_cases now attribution with
    ⟨_, hcheck, h⟩ | ⟨hcheck, _, h⟩ | ⟨hcheck, _, _, h⟩ <;> simp [hcheck, h]

theorem start_eq_alreadyStarted_iff (phase : Phase) :
    debouncer.start now attribution = .error (.alreadyStarted phase) ↔
      debouncer.settings.check = .ok () ∧ debouncer.queue.phase = phase ∧
        phase ≠ .uninitialized := by
  rcases debouncer.start_cases now attribution with
    ⟨_, hcheck, h⟩ | ⟨hcheck, hphase, h⟩ | ⟨hcheck, hphase, _, h⟩
  · simp [hcheck, h]
  · simp only [hcheck, h, Except.error.injEq, Fault.alreadyStarted.injEq, true_and]
    constructor
    · rintro rfl
      exact ⟨rfl, hphase⟩
    · exact And.left
  · simp only [hcheck, h, hphase, reduceCtorEq, true_and, false_iff, not_and, not_not]
    exact Eq.symm

end Start

/-- The attribution of the loop that a move starts. -/
def opened (debouncer : Debouncer) : Move → List Attribution
  | .start now attribution =>
    match debouncer.start now attribution with
    | .ok _ => [attribution]
    | .error _ => []
  | _ => []

/-- A move that starts no loop leaves an uninitialized debouncer uninitialized. -/
theorem opened_cases {debouncer : Debouncer} (hphase : debouncer.queue.phase = .uninitialized)
    (hsound : debouncer.Sound) (move : Move) :
    (debouncer.opened move = [] ∧ (debouncer.step move).queue.phase = .uninitialized) ∨
      ∃ attribution, debouncer.opened move = [attribution] ∧
        (debouncer.step move).queue.phase = .running := by
  rcases debouncer.step_phase_cases move with
    ⟨hqueue, _⟩ | ⟨_, _, hrunning, _, now, attribution, rfl, hstart⟩ | ⟨_, _, hrunning, _⟩
  · refine Or.inl ⟨?_, hqueue.trans hphase⟩
    cases move with
    | start now attribution =>
        rcases debouncer.start_cases now attribution with
          ⟨_, _, h⟩ | ⟨_, _, h⟩ | ⟨_, _, started, h⟩
        · simp only [opened, h]
        · simp only [opened, h]
        · -- A start that succeeds would have changed the phase.
          have hrunning := (start_eq_ok h).2.2.1
          simp [step, h, hphase, hrunning] at hqueue
    | _ => rfl
  · exact Or.inr ⟨attribution, by simp only [opened, hstart], hrunning⟩
  · rw [← hsound.phase_eq, hphase] at hrunning
    cases hrunning

theorem opened_eq_nil {debouncer : Debouncer} (hphase : debouncer.queue.phase ≠ .uninitialized)
    (move : Move) : debouncer.opened move = [] := by
  cases move with
  | start now attribution =>
      rcases debouncer.start_cases now attribution with
        ⟨_, _, h⟩ | ⟨_, _, h⟩ | ⟨_, huninitialized, _⟩
      · simp only [opened, h]
      · simp only [opened, h]
      · exact absurd huninitialized hphase
  | _ => rfl

theorem history_opened_of_started {debouncer : Debouncer} (hsound : debouncer.Sound)
    (hphase : debouncer.queue.phase ≠ .uninitialized) (moves : List Move) :
    debouncer.history opened moves = [] := by
  rw [List.eq_nil_iff_forall_not_mem]
  intro attribution hmem
  obtain ⟨first, move, last, rfl, hopened⟩ := Steps.exists_of_mem_history hmem
  rw [opened_eq_nil (phase_run_ne hsound hphase first)] at hopened
  cases hopened

theorem history_opened_of_ne_start {debouncer : Debouncer} {moves : List Move}
    (hmoves : ∀ move ∈ moves, ∀ now attribution, move ≠ .start now attribution) :
    debouncer.history opened moves = [] := by
  rw [List.eq_nil_iff_forall_not_mem]
  intro attribution hmem
  obtain ⟨first, move, last, rfl, hopened⟩ := Steps.exists_of_mem_history hmem
  cases move with
  | start now other => exact hmoves _ (by simp) now other rfl
  | _ => cases hopened

/-- From an uninitialized debouncer at most one start succeeds, and as long as none does the
debouncer stays uninitialized. -/
theorem history_opened_cases {debouncer : Debouncer} (hsound : debouncer.Sound)
    (hphase : debouncer.queue.phase = .uninitialized) (moves : List Move) :
    (debouncer.history opened moves = [] ∧
      (debouncer.run moves).queue.phase = .uninitialized) ∨
    ∃ attribution, debouncer.history opened moves = [attribution] ∧
      (debouncer.run moves).queue.phase ≠ .uninitialized := by
  induction moves generalizing debouncer with
  | nil => exact Or.inl ⟨rfl, hphase⟩
  | cons move moves ih =>
      simp only [Steps.history_cons, Steps.run_cons]
      rcases opened_cases hphase hsound move with ⟨hnone, hstays⟩ | ⟨attribution, hone, hstarts⟩
      · rw [hnone]
        exact ih (hsound.step move) hstays
      · have hne : (debouncer.step move).queue.phase ≠ .uninitialized := by simp [hstarts]
        simp only [hone, history_opened_of_started (hsound.step move) hne, List.append_nil]
        exact Or.inr ⟨attribution, rfl, phase_run_ne (hsound.step move) hne moves⟩

/-! ## Probes of the readiness -/

/-- The status of an answer about the readiness while the debouncer is in this phase. -/
def readyStatus : Phase → Nat
  | .running => 200
  | .uninitialized | .stopped => 503

theorem status_readiness (debouncer : Debouncer) :
    (Probe.readiness debouncer).status = readyStatus debouncer.queue.phase := by
  rw [Probe.readiness, Probe.readinessOf]
  cases debouncer.queue.phase <;> rfl

theorem answer_readyz (debouncer : Debouncer) (uptimeSecs : Nat) :
    Probe.answer debouncer uptimeSecs "GET" "/readyz" = Probe.readiness debouncer := by
  have hpath : Probe.withoutQuery "/readyz" = "/readyz" := by decide
  simp [Probe.answer, hpath, Probe.atPath?]

/-- Probes are told that the program is not ready, then that it is, then again that it is not. -/
theorem statuses_states {debouncer : Debouncer} (hsound : debouncer.Sound)
    (parts : List (List Move)) :
    ∃ before during after, ((debouncer.states parts).map fun state =>
        (Probe.readiness state).status) =
      List.replicate before 503 ++ List.replicate during 200 ++ List.replicate after 503 := by
  obtain ⟨before, during, after, hphases⟩ :=
    Phase.eq_replicate_of_pairwise (pairwise_rank_states hsound parts)
  refine ⟨before, during, after, ?_⟩
  have hmap := congrArg (List.map readyStatus) hphases
  simpa [Function.comp_def, status_readiness, readyStatus] using hmap

/-- The member of an answer with a name. -/
def member? (answer : Probe.Answer) (name : String) : Option Json :=
  match answer.body with
  | some (.json content) => content.field? name
  | some (.text _) | none => none

/-- Phases have different words, so that an answer tells the phase that was read. -/
theorem member?_debouncer_eq_stopped_iff (phase : Phase) (pending targets : Nat) :
    member? (Probe.readinessOf phase pending targets) "debouncer" = some (.string "stopped") ↔
      phase = .stopped := by
  cases phase <;> simp [member?, Probe.readinessOf, Probe.Answer.ofBody, Json.field?, Phase.word]

theorem member?_pendingKeys (phase : Phase) (pending targets : Nat) :
    member? (Probe.readinessOf phase pending targets) "pending_keys" = some (.ofNat pending) := by
  simp [member?, Probe.readinessOf, Probe.Answer.ofBody, Json.field?]

/-- Take any run of a new debouncer, whatever its settings. Each move keeps the phase, starts the
debouncer, or stops the one that runs, and no later phase precedes an earlier one. At most one start
succeeds, and there is a loop just if one did. A start is refused for its settings just if they do
not pass their check, and else for the phase just if the debouncer was started before; a refused
start changes nothing. With settings that do not pass the debouncer stays uninitialized. A stopped
one has no pending keys. Probes are answered 503, then 200, then 503, and an answer that tells of a
stopped debouncer tells of no pending key, even if moves fall between the readings for it. -/
theorem phases_pass_in_order (settings : Settings.Debouncer) (registry : Registry) (meter : Meter)
    (moves : List Move) :
    let initial := new settings registry meter
    let current := initial.run moves
    (∀ move, (current.step move).queue.phase = current.queue.phase ∨
      current.queue.phase = .uninitialized ∧ (current.step move).queue.phase = .running ∨
      current.queue.phase = .running ∧ (current.step move).queue.phase = .stopped) ∧
    (∀ later, current.queue.phase.rank ≤ (current.run later).queue.phase.rank) ∧
    (initial.history opened moves).length ≤ 1 ∧
    (current.loop = .absent ↔ initial.history opened moves = []) ∧
    (∀ now attribution,
      (∀ fault, current.start now attribution = .error (.invalidSettings fault) ↔
        settings.check = .error fault) ∧
      (∀ phase, current.start now attribution = .error (.alreadyStarted phase) ↔
        settings.check = .ok () ∧ current.queue.phase = phase ∧ phase ≠ .uninitialized) ∧
      ∀ fault, current.start now attribution = .error fault →
        current.step (.start now attribution) = current) ∧
    (settings.check ≠ .ok () → current.queue.phase = .uninitialized) ∧
    (current.queue.phase = .stopped → current.queue.keys = []) ∧
    (∀ uptimeSecs, Probe.answer current uptimeSecs "GET" "/readyz" = Probe.readiness current) ∧
    (∀ parts, ∃ before during after,
      ((initial.states parts).map fun state => (Probe.readiness state).status) =
        List.replicate before 503 ++ List.replicate during 200 ++ List.replicate after 503) ∧
    (∀ between more,
      let answer := Probe.readinessOf current.queue.phase (current.run between).queue.size
        ((current.run between).run more).registry.size
      member? answer "debouncer" = some (.string "stopped") →
        member? answer "pending_keys" = some (.ofNat 0)) := by
  intro initial current
  have hinitial : initial.Sound := new_sound settings registry meter
  have hcurrent : current.Sound := hinitial.run moves
  have hsettings : current.settings = settings := run_settings initial moves
  have hopened := history_opened_cases hinitial rfl moves
  refine ⟨queue_phase_step hcurrent, rank_le_run hcurrent, ?_, ?_,
    fun now attribution => ⟨?_, ?_, ?_⟩, ?_, current.queue.keys_eq_nil, answer_readyz current,
    statuses_states hinitial, ?_⟩
  · rcases hopened with ⟨hnone, _⟩ | ⟨_, hone, _⟩
    · simp [hnone]
    · simp [hone]
  · have habsent : current.loop = .absent ↔ current.queue.phase = .uninitialized := by
      rw [hcurrent.phase_eq]
      cases current.loop <;> simp [Loop.phase]
    rw [habsent]
    rcases hopened with ⟨hnone, huninitialized⟩ | ⟨_, hone, hstarted⟩
    · exact iff_of_true huninitialized hnone
    · exact iff_of_false hstarted (by simp [hone])
  · rw [← hsettings]
    exact current.start_eq_invalidSettings_iff now attribution
  · rw [← hsettings]
    exact current.start_eq_alreadyStarted_iff now attribution
  · intro fault hfault
    simp only [step, hfault]
  · intro hinvalid
    by_contra hstarted
    exact hinvalid (hsettings ▸ hcurrent.checked hstarted)
  · intro between more answer hstopped
    rw [member?_debouncer_eq_stopped_iff] at hstopped
    -- Whatever happens after the phase was read, a stopped debouncer takes no key in.
    have hempty : (current.run between).queue.keys = [] :=
      (current.run between).queue.keys_eq_nil (run_stopped hcurrent hstopped between)
    rw [member?_pendingKeys, Queue.size, hempty]
    rfl

/-- Moves by which a debouncer is started and stopped, with a key that comes too late. -/
def wholeLife : List Move :=
  [.add ⟨"pod", "ns-a", "x"⟩, .start 0 .none, .start 1 ⟨"late"⟩, .cancel, .heed,
    .add ⟨"pod", "ns-a", "y"⟩]

/-- A debouncer that went through its life is not started again and tells of no pending key; one
whose settings do not pass stays uninitialized. -/
theorem phases_pass_in_order_wholeLife :
    ((new {} .empty {}).run wholeLife).queue.phase = .stopped ∧
    ((new {} .empty {}).run wholeLife).queue.keys = [] ∧
    ((new {} .empty {}).run wholeLife).step (.start 2 .none) = (new {} .empty {}).run wholeLife ∧
    member? (Probe.readiness ((new {} .empty {}).run wholeLife)) "pending_keys" =
      some (.ofNat 0) ∧
    ((new { tickIntervalMs := 0 } .empty {}).run wholeLife).queue.phase = .uninitialized := by
  have hstopped : ((new {} .empty {}).run wholeLife).queue.phase = .stopped := by decide +kernel
  obtain ⟨_, _, _, _, hstart, _, hkeys, _, _, hprobe⟩ :=
    phases_pass_in_order {} .empty {} wholeLife
  have hrefused : ((new {} .empty {}).run wholeLife).start 2 .none =
      .error (.alreadyStarted .stopped) :=
    ((hstart 2 .none).2.1 .stopped).mpr ⟨by decide, hstopped, by decide⟩
  have hinvalid : Settings.Debouncer.check { tickIntervalMs := 0 } ≠ .ok () := by decide
  refine ⟨hstopped, hkeys hstopped, (hstart 2 .none).2.2 _ hrefused, ?_,
    (phases_pass_in_order { tickIntervalMs := 0 } .empty {} wholeLife).2.2.2.2.2.1 hinvalid⟩
  exact hprobe [] [] ((member?_debouncer_eq_stopped_iff ..).mpr hstopped)

end Debouncer

end Rescan.Debounce
