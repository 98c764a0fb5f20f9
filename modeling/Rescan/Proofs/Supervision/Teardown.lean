import Rescan.Proofs.Debounce.Shutdown
import Rescan.Proofs.Monitoring.Startup

/-! # The end of the whole program

A supervisor runs controllers that share a debouncer, beside tasks of other kinds. The loop of the
debouncer is no task of its own: the task of the controller that started it lasts as long as the
loop. So a supervisor that waited for all its tasks leaves no loop behind, whenever and for
whatever reason it stopped.
-/

namespace Rescan

open Rescan.Debounce (Debouncer Phase)
open Rescan.Telemetry (Meter)
open Rescan.Topology (Registry)

/-- Without a start a debouncer that does not run keeps its phase. -/
theorem Debounce.Debouncer.phase_run_of_ne_start {debouncer : Debouncer}
    (hsound : debouncer.Sound) (hphase : debouncer.queue.phase ≠ .running)
    {moves : List Debounce.Move}
    (hmoves : ∀ move ∈ moves, ∀ now attribution, move ≠ .start now attribution) :
    (debouncer.run moves).queue.phase = debouncer.queue.phase := by
  induction moves generalizing debouncer with
  | nil => rfl
  | cons move moves ih =>
      have hstep : (debouncer.step move).queue.phase = debouncer.queue.phase := by
        rcases debouncer.step_phase_cases move with
          ⟨hqueue, _⟩ | ⟨_, _, _, _, now, attribution, hstart, _⟩ | ⟨_, _, hrunning, _⟩
        · exact hqueue
        · exact absurd hstart (hmoves move List.mem_cons_self now attribution)
        · rw [← hsound.phase_eq] at hrunning
          exact absurd hrunning hphase
      rw [← hstep]
      exact ih (hsound.step move) (hstep ▸ hphase) fun other hother =>
        hmoves other (List.mem_cons_of_mem _ hother)

/-! ## Starts over a debouncer -/

namespace Startup

variable {startup : Startup}

/-- The start of the controller with a number returned. -/
def Returned (startup : Startup) (index : Nat) (result : Except Failure Bool) : Prop :=
  ∃ controller, startup.calls[index]? = some ⟨controller, .returned result⟩

/-- The task of the controller with a number is over. -/
def Over (startup : Startup) (index : Nat) : Prop :=
  ∃ result, startup.Returned index result ∧
    (Controller.Task.ofStart result).result? startup.debouncer ≠ none

/-- A debouncer that was started was started by one of the controllers. -/
def Owned (startup : Startup) : Prop :=
  startup.debouncer.queue.phase ≠ .uninitialized → ∃ index, startup.Returned index (.ok true)

/-- What a start returned is never taken back. -/
theorem Returned.step {index : Nat} {result : Except Failure Bool}
    (hreturned : startup.Returned index result) (move : Move) :
    (startup.step move).Returned index result := by
  obtain ⟨controller, hcall⟩ := hreturned
  have hset : ∀ (other : Nat) (call : Call), other ≠ index →
      (startup.calls.set other call)[index]? = some ⟨controller, .returned result⟩ :=
    fun other call hother => by rw [List.getElem?_set_ne hother, hcall]
  cases move with
  | call other =>
      refine ⟨controller, ?_⟩
      rw [Startup.step, List.getElem?_append_left (List.getElem?_eq_some_iff.mp hcall).1, hcall]
  | tell other answer =>
      refine ⟨controller, ?_⟩
      simp only [Startup.step]
      split
      next asking hasking =>
        refine hset other _ ?_
        rintro rfl
        rw [hcall] at hasking
        cases hasking
      · exact hcall
  | reach other now =>
      refine ⟨controller, ?_⟩
      simp only [Startup.step]
      split
      next told answer htold =>
        have hother : other ≠ index := by
          rintro rfl
          rw [hcall] at htold
          cases htold
        split
        · exact hset other _ hother
        · exact hset other _ hother
      · exact hcall
  | other inner hinner => exact ⟨controller, hcall⟩

theorem length_calls_step {move : Move} (hmove : ∀ controller, move ≠ .call controller) :
    (startup.step move).calls.length = startup.calls.length := by
  cases move with
  | call controller => exact absurd rfl (hmove controller)
  | tell index answer =>
      simp only [step]
      split
      · exact List.length_set
      · rfl
  | reach index now =>
      simp only [step]
      split
      · split
        · exact List.length_set
        · exact List.length_set
      · rfl
  | other inner hinner => rfl

section Checked

variable (hcheck : startup.debouncer.settings.check = .ok ())

include hcheck

/-- A task that is over stays over. -/
theorem Over.step (hsound : startup.debouncer.Sound) {index : Nat} (hover : startup.Over index)
    (move : Move) : (startup.step move).Over index := by
  obtain ⟨result, hreturned, htask⟩ := hover
  refine ⟨result, hreturned.step move, ?_⟩
  unfold Controller.Task.result? at htask ⊢
  split at htask
  · simp
  · -- The loop that the controller started has ended, and does so for good.
    have hended : startup.debouncer.loop = .ended := by
      cases hloop : startup.debouncer.loop <;> simp_all
    have hstopped : startup.debouncer.queue.phase = .stopped := by
      rw [hsound.phase_eq, hended]
      rfl
    have hlater := Debouncer.run_stopped hsound hstopped (startup.debounceMoves move)
    rw [(hsound.run _).phase_eq, ← debouncer_step hcheck] at hlater
    cases hloop : (startup.step move).debouncer.loop <;> simp_all [Debounce.Loop.phase]

theorem Owned.step (hsound : startup.debouncer.Sound) (howned : startup.Owned) (move : Move) :
    (startup.step move).Owned := by
  -- Unless the move starts the debouncer, the controller that did so is one from before.
  have hkept : startup.debouncer.queue.phase ≠ .uninitialized →
      ∃ index, (startup.step move).Returned index (.ok true) := fun hphase =>
    (howned hphase).imp fun index hreturned => hreturned.step move
  intro hphase
  cases move with
  | call controller => exact hkept hphase
  | tell index answer =>
      refine hkept ?_
      rwa [debouncer_step hcheck] at hphase
  | reach index now =>
      by_cases hstarted : startup.debouncer.queue.phase = .uninitialized
      · rw [debouncer_step hcheck, debounceMoves] at hphase
        split at hphase
        next controller uid hcall =>
          refine ⟨index, controller, ?_⟩
          rw [reach_of_ok hcheck hcall,
            List.getElem?_set_self (List.getElem?_eq_some_iff.mp hcall).1, hstarted]
          rfl
        · exact absurd hstarted hphase
      · exact hkept hstarted
  | other inner hinner =>
      refine hkept fun huninitialized => hphase ?_
      rcases startup.debouncer.step_phase_cases inner with
        ⟨hqueue, _⟩ | ⟨_, _, _, _, now, attribution, hstart, _⟩ | ⟨_, _, hrunning, _⟩
      · exact hqueue.trans huninitialized
      · exact absurd hstart (hinner now attribution)
      · rw [← hsound.phase_eq, huninitialized] at hrunning
        cases hrunning

end Checked

/-- Once all starts returned, nothing starts the debouncer any more; one that does not run stays
as it is. -/
theorem phase_step_of_returned (hsound : startup.debouncer.Sound)
    (hcheck : startup.debouncer.settings.check = .ok ())
    (hall : ∀ index < startup.calls.length, ∃ result, startup.Returned index result)
    (hphase : startup.debouncer.queue.phase ≠ .running) (move : Move) :
    (startup.step move).debouncer.queue.phase = startup.debouncer.queue.phase := by
  have hinner : ∀ inner ∈ startup.debounceMoves move,
      ∀ now attribution, inner ≠ .start now attribution := by
    cases move with
    | reach index now =>
        simp only [debounceMoves]
        split
        next controller uid hcall =>
          -- A start that is still to reach the debouncer would not have returned.
          obtain ⟨result, other, hreturned⟩ := hall index (List.getElem?_eq_some_iff.mp hcall).1
          rw [hcall] at hreturned
          cases hreturned
        · exact List.forall_mem_nil _
    | other inner hinner => simpa [debounceMoves] using hinner
    | call _ | tell _ _ => exact List.forall_mem_nil _
  rw [debouncer_step hcheck]
  exact Debouncer.phase_run_of_ne_start hsound hphase hinner

/-- What holds as long as the debouncer is started by controllers alone. -/
structure Kept (startup : Startup) : Prop where
  checked : startup.debouncer.settings.check = .ok ()
  sound : startup.debouncer.Sound
  owned : startup.Owned

theorem Kept.step (hkept : startup.Kept) (move : Move) : (startup.step move).Kept where
  checked := settings_step hkept.checked move
  sound := debouncer_step hkept.checked move ▸ hkept.sound.run _
  owned := hkept.owned.step hkept.checked hkept.sound move

theorem Kept.run (hkept : startup.Kept) (moves : List Move) : (startup.run moves).Kept :=
  Steps.run_induction hkept fun _ move _ hbefore => hbefore.step move

theorem Over.run (hkept : startup.Kept) {index : Nat} (hover : startup.Over index)
    (moves : List Move) : (startup.run moves).Over index :=
  (Steps.run_induction (P := fun other : Startup => other.Kept ∧ other.Over index) ⟨hkept, hover⟩
    fun _ move _ hbefore =>
      ⟨hbefore.1.step move, hbefore.2.step hbefore.1.checked hbefore.1.sound move⟩).2

theorem length_calls_run {moves : List Move}
    (hmoves : ∀ move ∈ moves, ∀ controller, move ≠ .call controller) :
    (startup.run moves).calls.length = startup.calls.length :=
  Steps.run_induction (P := fun other : Startup => other.calls.length = startup.calls.length) rfl
    fun _ move hmem hbefore => (length_calls_step (hmoves move hmem)).trans hbefore

/-- All starts have returned, and the debouncer is in a phase. -/
structure Settled (startup : Startup) (phase : Phase) : Prop where
  kept : startup.Kept
  returned : ∀ index < startup.calls.length, ∃ result, startup.Returned index result
  phase_eq : startup.debouncer.queue.phase = phase

theorem Settled.run {phase : Phase} (hsettled : startup.Settled phase) (hphase : phase ≠ .running)
    {moves : List Move} (hmoves : ∀ move ∈ moves, ∀ controller, move ≠ .call controller) :
    (startup.run moves).Settled phase := by
  refine Steps.run_induction (P := fun other : Startup => other.Settled phase) hsettled
    fun before move hmem hbefore => ⟨hbefore.kept.step move, fun index hindex => ?_, ?_⟩
  · rw [length_calls_step (hmoves move hmem)] at hindex
    exact (hbefore.returned index hindex).imp fun result hreturned => hreturned.step move
  · rw [phase_step_of_returned hbefore.kept.sound hbefore.kept.checked hbefore.returned
      (hbefore.phase_eq.trans_ne hphase) move]
    exact hbefore.phase_eq

/-- When the tasks of all controllers are over the debouncer does not run: the one that started it
waited for its loop. -/
theorem phase_of_over (hkept : startup.Kept)
    (hover : ∀ index < startup.calls.length, startup.Over index) :
    startup.debouncer.queue.phase = .uninitialized ∨
      startup.debouncer.queue.phase = .stopped := by
  by_cases hphase : startup.debouncer.queue.phase = .uninitialized
  · exact Or.inl hphase
  · obtain ⟨index, controller, hcall⟩ := hkept.owned hphase
    obtain ⟨result, ⟨other, hsame⟩, htask⟩ := hover index (List.getElem?_eq_some_iff.mp hcall).1
    rw [hcall] at hsame
    cases hsame
    right
    rw [hkept.sound.phase_eq]
    cases hloop : startup.debouncer.loop <;>
      simp_all [Controller.Task.ofStart, Controller.Task.result?, Debounce.Loop.phase]

end Startup

/-! ## The supervisor -/

namespace Supervisor

def Ending.ofResult : Except Failure Unit → Ending
  | .ok _ => .completed
  | .error failure => .failed failure

variable (supervisor : Supervisor) (now : Nat)

theorem conclude_cases :
    supervisor.conclude now = supervisor ∨
      supervisor.live = [] ∧
        supervisor.conclude now = { supervisor with phase := .returned now } := by
  unfold conclude
  split
  · exact Or.inl rfl
  all_goals
    split
    next hlive => exact Or.inr ⟨List.isEmpty_iff.mp hlive, rfl⟩
    · exact Or.inl rfl

theorem live_conclude : (supervisor.conclude now).live = supervisor.live := by
  rcases supervisor.conclude_cases now with h | ⟨_, h⟩ <;> rw [h]

theorem live_taskEnded (task : Nat) (ending : Ending) :
    (supervisor.taskEnded task now ending).live = supervisor.live.erase task := by
  unfold taskEnded
  dsimp only
  split <;> exact live_conclude ..

theorem live_stop : (supervisor.stop now).live = supervisor.live := by
  unfold stop
  split <;> rfl

theorem live_expire : (supervisor.expire now).live = supervisor.live := by
  unfold expire
  split <;> rfl

/-- A supervisor that has returned has no tasks left. -/
def Emptied (supervisor : Supervisor) : Prop :=
  supervisor.hasReturned = true → supervisor.live = []

variable {supervisor}

theorem Emptied.conclude (hemptied : supervisor.Emptied) : (supervisor.conclude now).Emptied := by
  rcases supervisor.conclude_cases now with h | ⟨hlive, h⟩
  · rwa [h]
  · rw [h]
    exact fun _ => hlive

theorem Emptied.taskEnded (hemptied : supervisor.Emptied) (task : Nat) (ending : Ending) :
    (supervisor.taskEnded task now ending).Emptied := by
  have hremaining : ({ supervisor with live := supervisor.live.erase task } : Supervisor).Emptied :=
    fun hreturned => by rw [hemptied hreturned]; rfl
  unfold Supervisor.taskEnded
  dsimp only
  split
  · exact Emptied.conclude now nofun
  · exact hremaining.conclude now

theorem Emptied.stop (hemptied : supervisor.Emptied) : (supervisor.stop now).Emptied := by
  unfold Supervisor.stop
  split
  · exact nofun
  · exact hemptied
  · exact hemptied

theorem emptied_ofCount (count graceMs : Nat) : (ofCount count graceMs).Emptied :=
  Emptied.conclude 0 nofun

end Supervisor

/-! ## Controllers under a supervisor -/

/-- A supervisor with the tasks of some controllers that share a debouncer. The tasks of the
controllers are numbered from zero on, those of other kinds follow. -/
structure Ensemble where
  startup : Startup
  supervisor : Supervisor

namespace Ensemble

/-- One step of the supervisor, of one of its tasks or of their surroundings. -/
inductive Move where
  /-- A controller is answered about the identity. -/
  | tell (index : Nat) (answer : Identity.Answer)
  /-- A controller that was answered goes on to the end of its start. -/
  | reach (index now : Nat)
  /-- The debouncer makes a move other than to start. Its loop is cancelled when someone outside
  cancels all tasks. -/
  | debounce (move : Debounce.Move)
    (hmove : ∀ now attribution, move ≠ .start now attribution := by simp)
  /-- The supervisor is told to stop by a signal. -/
  | signal (now : Nat)
  /-- The supervisor looks whether someone outside cancelled the tasks. -/
  | look (now : Nat)
  /-- The supervisor hears that the task of a controller is over. -/
  | join (index now : Nat)
  /-- A task of another kind ends. -/
  | finish (task now : Nat) (ending : Supervisor.Ending)
  /-- The grace period is over. -/
  | expire (now : Nat)

/-- How the task of a controller ended, if it is over. -/
def ending? (ensemble : Ensemble) (index : Nat) : Option Supervisor.Ending :=
  match ensemble.startup.calls[index]? with
  | some ⟨_, .returned result⟩ =>
    ((Controller.Task.ofStart result).result? ensemble.startup.debouncer).map .ofResult
  | _ => none

/-- The supervisor after a move. -/
def oversee (ensemble : Ensemble) : Move → Supervisor
  | .tell _ _ | .reach _ _ | .debounce _ _ => ensemble.supervisor
  | .signal now => ensemble.supervisor.stop now
  | .look now =>
    if ensemble.startup.debouncer.cancelled then ensemble.supervisor.stop now
    else ensemble.supervisor
  | .join index now =>
    match ensemble.ending? index with
    | some ending =>
      if index ∈ ensemble.supervisor.live then ensemble.supervisor.taskEnded index now ending
      else ensemble.supervisor
    | none => ensemble.supervisor
  | .finish task now ending =>
    if ensemble.startup.calls.length ≤ task ∧ task ∈ ensemble.supervisor.live then
      ensemble.supervisor.taskEnded task now ending
    else ensemble.supervisor
  | .expire now =>
    match ensemble.supervisor.deadline? with
    | some deadline =>
      if deadline ≤ now then ensemble.supervisor.expire now else ensemble.supervisor
    | none => ensemble.supervisor

/-- A supervisor that is not running any more has cancelled the loop. -/
def orders (supervisor : Supervisor) : List Startup.Move :=
  if supervisor.isCancelled then [.other .cancel] else []

/-- What a move does to the controllers and the debouncer. -/
def startupMoves (ensemble : Ensemble) : Move → List Startup.Move
  | .tell index answer => [.tell index answer]
  | .reach index now => [.reach index now]
  | .debounce move hmove => [.other move hmove]
  | move => orders (ensemble.oversee move)

def step (ensemble : Ensemble) (move : Move) : Ensemble where
  startup := ensemble.startup.run (ensemble.startupMoves move)
  supervisor := ensemble.oversee move

abbrev run (ensemble : Ensemble) (moves : List Move) : Ensemble := Steps.run step ensemble moves

/-- What is observed of the moves of a run, in order. -/
abbrev history {α : Type} (observe : Ensemble → Move → List α) (ensemble : Ensemble)
    (moves : List Move) : List α :=
  Steps.history step observe ensemble moves

/-- The supervision of controllers and of a number of other tasks, which all begin at time zero.
The controllers ask for the identity. -/
def begin (settings : Settings.Debouncer) (registry : Registry) (meter : Meter)
    (controllers : List Controller) (others graceMs : Nat) : Ensemble :=
  let startup : Startup :=
    { debouncer := .new settings registry meter
      calls := controllers.map fun controller => { controller } }
  let supervisor := Supervisor.ofCount (controllers.length + others) graceMs
  { startup := startup.run (orders supervisor), supervisor }

/-- What a move does to the debouncer. -/
def debounceMoves (ensemble : Ensemble) (move : Move) : List Debounce.Move :=
  ensemble.startup.history Startup.debounceMoves (ensemble.startupMoves move)

/-- The time at which a move ends the grace period. -/
def expired (ensemble : Ensemble) : Move → List Nat
  | .expire now => if ensemble.supervisor.deadline?.any (· ≤ now) then [now] else []
  | _ => []

theorem ne_call_of_mem_startupMoves {ensemble : Ensemble} {move : Move} {inner : Startup.Move}
    (hmem : inner ∈ ensemble.startupMoves move) (controller : Controller) :
    inner ≠ .call controller := by
  rintro rfl
  cases move <;> simp [startupMoves, orders] at hmem

/-! ## What holds all along a run -/

/-- What holds of controllers and their supervisor at every time. -/
structure Sound (ensemble : Ensemble) : Prop where
  kept : ensemble.startup.Kept
  /-- The supervisor waits for every controller whose task is not over. -/
  watched : ∀ index < ensemble.startup.calls.length,
    index ∈ ensemble.supervisor.live ∨ ensemble.startup.Over index
  ordered : ensemble.supervisor.isCancelled = true → ensemble.startup.debouncer.cancelled = true

theorem over_of_ending? {ensemble : Ensemble} {index : Nat} {ending : Supervisor.Ending}
    (hending : ensemble.ending? index = some ending) : ensemble.startup.Over index := by
  unfold ending? at hending
  split at hending
  next controller result hcall =>
    refine ⟨result, ⟨controller, hcall⟩, fun hnone => ?_⟩
    rw [hnone] at hending
    cases hending
  · cases hending

/-- The supervisor stops waiting for a controller only when its task is over. -/
theorem mem_live_oversee {ensemble : Ensemble} {index : Nat}
    (hindex : index < ensemble.startup.calls.length) (hlive : index ∈ ensemble.supervisor.live)
    (move : Move) : index ∈ (ensemble.oversee move).live ∨ ensemble.startup.Over index := by
  cases move with
  | tell _ _ | reach _ _ | debounce _ _ => exact Or.inl hlive
  | signal now => exact Or.inl (by rwa [oversee, Supervisor.live_stop])
  | look now =>
      left
      simp only [oversee]
      split
      · rwa [Supervisor.live_stop]
      · exact hlive
  | join other now =>
      simp only [oversee]
      split
      next ending hending =>
        split
        · by_cases hsame : index = other
          · exact Or.inr (over_of_ending? (hsame ▸ hending))
          · left
            rwa [Supervisor.live_taskEnded, List.mem_erase_of_ne hsame]
        · exact Or.inl hlive
      · exact Or.inl hlive
  | finish task now ending =>
      left
      simp only [oversee]
      split
      next hother =>
        rwa [Supervisor.live_taskEnded, List.mem_erase_of_ne (by omega)]
      · exact hlive
  | expire now =>
      left
      simp only [oversee]
      split
      · split
        · rwa [Supervisor.live_expire]
        · exact hlive
      · exact hlive

theorem emptied_oversee {ensemble : Ensemble} (hemptied : ensemble.supervisor.Emptied) {move : Move}
    (hgrace : ensemble.expired move = []) : (ensemble.oversee move).Emptied := by
  cases move with
  | tell _ _ | reach _ _ | debounce _ _ => exact hemptied
  | signal now => exact hemptied.stop now
  | look now =>
      simp only [oversee]
      split
      · exact hemptied.stop now
      · exact hemptied
  | join index now =>
      simp only [oversee]
      split
      · split
        · exact hemptied.taskEnded _ _ _
        · exact hemptied
      · exact hemptied
  | finish task now ending =>
      simp only [oversee]
      split
      · exact hemptied.taskEnded _ _ _
      · exact hemptied
  | expire now =>
      simp only [oversee]
      split
      next deadline hdeadline =>
        split
        next hdue => simp [expired, hdeadline, hdue] at hgrace
        · exact hemptied
      · exact hemptied

theorem debouncer_orders {startup : Startup} {supervisor : Supervisor}
    (hcancelled : supervisor.isCancelled = true) :
    (startup.run (orders supervisor)).debouncer.cancelled = true := by
  rw [orders, if_pos hcancelled]
  rfl

theorem Sound.step {ensemble : Ensemble} (hsound : ensemble.Sound) (move : Move) :
    (ensemble.step move).Sound := by
  refine ⟨hsound.kept.run _, fun index hindex => ?_, fun hcancelled => ?_⟩
  · rw [Ensemble.step, Startup.length_calls_run fun _ => ne_call_of_mem_startupMoves] at hindex
    rcases hsound.watched index hindex with hlive | hover
    · exact (mem_live_oversee hindex hlive move).imp_right fun hover => hover.run hsound.kept _
    · exact Or.inr (hover.run hsound.kept _)
  · -- Whoever is told or moves on, a request to end the loop stands.
    have hstands : ensemble.supervisor.isCancelled = true →
        (ensemble.step move).startup.debouncer.cancelled = true := by
      intro hbefore
      rw [Ensemble.step, Startup.debouncer_run hsound.kept.checked]
      exact Debouncer.run_cancelled (hsound.ordered hbefore) _
    cases move with
    | tell _ _ | reach _ _ | debounce _ _ => exact hstands hcancelled
    | signal _ | look _ | join _ _ | finish _ _ _ | expire _ => exact debouncer_orders hcancelled

theorem Sound.run {ensemble : Ensemble} (hsound : ensemble.Sound) (moves : List Move) :
    (ensemble.run moves).Sound :=
  Steps.run_induction hsound fun _ move _ hbefore => hbefore.step move

theorem emptied_run {ensemble : Ensemble} (hemptied : ensemble.supervisor.Emptied)
    {moves : List Move} (hgrace : ensemble.history expired moves = []) :
    (ensemble.run moves).supervisor.Emptied := by
  induction moves generalizing ensemble with
  | nil => exact hemptied
  | cons move moves ih =>
      obtain ⟨hmove, hmoves⟩ := List.append_eq_nil_iff.mp hgrace
      exact ih (emptied_oversee hemptied hmove) hmoves

theorem debouncer_run {ensemble : Ensemble} (hsound : ensemble.Sound) (moves : List Move) :
    (ensemble.run moves).startup.debouncer =
      ensemble.startup.debouncer.run (ensemble.history debounceMoves moves) :=
  Steps.part_run_of_kept (fun other : Ensemble => other.startup.debouncer) hsound
    (fun _ move h => h.step move) (fun _ _ h => Startup.debouncer_run h.kept.checked _) moves

theorem begin_sound {settings : Settings.Debouncer} (hcheck : settings.check = .ok ())
    (registry : Registry) (meter : Meter) (controllers : List Controller) (others graceMs : Nat) :
    (begin settings registry meter controllers others graceMs).Sound := by
  have hkept : (⟨.new settings registry meter, controllers.map fun controller => { controller }⟩ :
      Startup).Kept :=
    ⟨hcheck, Debouncer.new_sound settings registry meter, fun hphase => absurd rfl hphase⟩
  have hcalls : ∀ move ∈ orders (.ofCount (controllers.length + others) graceMs),
      ∀ controller, move ≠ .call controller := by
    intro move hmem controller
    rintro rfl
    simp [orders] at hmem
  refine ⟨hkept.run _, fun index hindex => Or.inl ?_, debouncer_orders⟩
  rw [begin, Startup.length_calls_run hcalls, List.length_map] at hindex
  rw [begin, Supervisor.ofCount, Supervisor.live_conclude, List.mem_range]
  omega

/-- Once the tasks of all controllers are over a debouncer that does not run keeps its phase. -/
theorem settled_run {ensemble : Ensemble} {phase : Phase}
    (hsettled : ensemble.startup.Settled phase) (hphase : phase ≠ .running) (moves : List Move) :
    (ensemble.run moves).startup.Settled phase :=
  Steps.run_induction (P := fun other : Ensemble => other.startup.Settled phase) hsettled
    fun _ _ _ hbefore => hbefore.run hphase fun _ => ne_call_of_mem_startupMoves

/-- Take any run of controllers over a new debouncer whose settings pass their check, beside any
number of other tasks, under a supervisor. From when the supervisor stops, whatever the reason, no
turn of the loop begins a drain, and the first turn of a loop, also of one that is started only
then, stops the debouncer. If the supervisor returns without the grace period being over, the
debouncer is stopped without pending keys, or no start ever succeeded and it is uninitialized. It
stays so, and there is never a drain of the loop any more. -/
theorem supervisor_leaves_no_loop (settings : Settings.Debouncer) (registry : Registry)
    (meter : Meter) (hcheck : settings.check = .ok ()) (controllers : List Controller)
    (others graceMs : Nat) (moves : List Move) :
    let initial := begin settings registry meter controllers others graceMs
    let current := initial.run moves
    let debouncer := current.startup.debouncer
    let inner := initial.history debounceMoves moves
    debouncer = initial.startup.debouncer.run inner ∧
    (current.supervisor.isCancelled = true →
      (∀ acts, debouncer.history Debouncer.begun (Debounce.Act.spell acts) = []) ∧
      (debouncer.loop ≠ .absent → ∀ now later,
        (debouncer.run (Debounce.Act.turn now later).moves).queue.phase = .stopped)) ∧
    (current.supervisor.hasReturned = true → initial.history expired moves = [] →
      (debouncer.queue.phase = .stopped ∧ debouncer.queue.keys = [] ∨
        debouncer.queue.phase = .uninitialized ∧
          initial.startup.debouncer.history Debouncer.opened inner = []) ∧
      ∀ later,
        let after := (current.run later).startup.debouncer
        after.queue.phase = debouncer.queue.phase ∧ after.queue.phase ≠ .running ∧
          after.drain? .loop = none ∧ ∀ now, after.begun (.tick now) = []) := by
  intro initial current debouncer inner
  have hinitial : initial.Sound := begin_sound hcheck registry meter controllers others graceMs
  have hcurrent : current.Sound := hinitial.run moves
  have hrun : debouncer = initial.startup.debouncer.run inner := debouncer_run hinitial moves
  refine ⟨hrun, fun hcancelled => ?_, fun hreturned hgrace => ?_⟩
  · have hordered := hcurrent.ordered hcancelled
    refine ⟨Debouncer.begun_of_cancelled hordered, fun hloop now later => ?_⟩
    exact (Debouncer.turn_of_cancelled hcurrent.kept.sound hordered hloop now later).2
  · -- All tasks were waited for, among them the one that lasts as long as the loop.
    have hlive : current.supervisor.live = [] :=
      emptied_run (Supervisor.emptied_ofCount _ _) hgrace hreturned
    have hover : ∀ index < current.startup.calls.length, current.startup.Over index := by
      intro index hindex
      rcases hcurrent.watched index hindex with hmem | hover
      · rw [hlive] at hmem
        cases hmem
      · exact hover
    have hphase := Startup.phase_of_over hcurrent.kept hover
    have hstill : debouncer.queue.phase ≠ .running := by
      rcases hphase with h | h <;> rw [h] <;> decide
    refine ⟨?_, fun later => ?_⟩
    · rcases hphase with huninitialized | hstopped
      · refine Or.inr ⟨huninitialized, ?_⟩
        have hnew : initial.startup.debouncer.queue.phase = .uninitialized := by
          simp only [initial, begin, orders]
          split <;> rfl
        rcases Debouncer.history_opened_cases hinitial.kept.sound hnew inner with
          ⟨hnone, _⟩ | ⟨_, _, hstarted⟩
        · exact hnone
        · rw [← hrun] at hstarted
          exact absurd huninitialized hstarted
      · exact Or.inl ⟨hstopped, debouncer.queue.keys_eq_nil hstopped⟩
    · intro after
      have hsettled : current.startup.Settled debouncer.queue.phase :=
        ⟨hcurrent.kept, fun index hindex => (hover index hindex).imp fun _ h => h.1, rfl⟩
      have hlater := settled_run hsettled hstill later
      have hloop : after.loop.phase ≠ .running := by
        rw [← hlater.kept.sound.phase_eq, hlater.phase_eq]
        exact hstill
      refine ⟨hlater.phase_eq, hlater.phase_eq.trans_ne hstill, ?_, fun now => ?_⟩
      · cases hdrain : after.loop with
        | draining ticker drain =>
            rw [hdrain] at hloop
            exact absurd rfl hloop
        | _ => simp only [Debouncer.drain?, hdrain]
      · have hround : Debounce.Move.tick now ∈ Debounce.Act.round now := by
          simp [Debounce.Act.round]
        exact Debouncer.begun_of_not_running hloop hround

/-- The program is told to end while both controllers wait for the identity. Only then does the
first one start the debouncer, whose loop ends at its first turn, and the second one fails. -/
def startedLate : List Move :=
  [.debounce (.add ⟨"pod", "ns-b", "y"⟩), .signal 5, .tell 0 (.ok (some "u")), .reach 0 7,
    .debounce .heed, .join 0 8, .tell 1 (.error (.clusterUnreachable "refused")), .reach 1 9,
    .join 1 9, .finish 2 9 .completed]

/-- No controller learns the identity, and the first failure stops the supervisor. -/
def neverStarted : List Move :=
  [.debounce (.add ⟨"pod", "ns-b", "y"⟩), .tell 0 (.error (.clusterUnreachable "refused")),
    .reach 0 5, .join 0 5, .tell 1 (.error (.clusterUnreachable "refused")), .reach 1 6,
    .join 1 6, .finish 2 6 .completed]

/-- Two controllers and one other task. -/
def trio : Ensemble := begin {} .empty {} [{ kind := ⟨"pod"⟩ }, { kind := ⟨"node"⟩ }] 1 10000

/-- A debouncer that was started after the signal is stopped when the supervisor returns, and one
that was never started is uninitialized; neither has a drain however things go on. -/
theorem supervisor_leaves_no_loop_late :
    (trio.run startedLate).supervisor.hasReturned = true ∧
    (trio.run startedLate).startup.debouncer.queue.phase = .stopped ∧
    (trio.run startedLate).startup.debouncer.queue.keys = [] ∧
    (∀ later, ((trio.run startedLate).run later).startup.debouncer.drain? .loop = none) ∧
    (trio.run neverStarted).supervisor.hasReturned = true ∧
    trio.startup.debouncer.history Debouncer.opened (trio.history debounceMoves neverStarted) = [] ∧
    ∀ later,
      ((trio.run neverStarted).run later).startup.debouncer.queue.phase = .uninitialized := by
  have hcheck : Settings.Debouncer.check {} = .ok () := by decide
  have ⟨hreturned, hgrace, hstopped⟩ : (trio.run startedLate).supervisor.hasReturned = true ∧
      trio.history expired startedLate = [] ∧
      (trio.run startedLate).startup.debouncer.queue.phase = .stopped := by
    decide +kernel
  have ⟨hover, hpatient, huninitialized⟩ : (trio.run neverStarted).supervisor.hasReturned = true ∧
      trio.history expired neverStarted = [] ∧
      (trio.run neverStarted).startup.debouncer.queue.phase = .uninitialized := by
    decide +kernel
  obtain ⟨_, _, hlate⟩ := supervisor_leaves_no_loop {} .empty {} hcheck
    [{ kind := ⟨"pod"⟩ }, { kind := ⟨"node"⟩ }] 1 10000 startedLate
  obtain ⟨_, _, hnever⟩ := supervisor_leaves_no_loop {} .empty {} hcheck
    [{ kind := ⟨"pod"⟩ }, { kind := ⟨"node"⟩ }] 1 10000 neverStarted
  obtain ⟨hend, hquiet⟩ := hlate hreturned hgrace
  obtain ⟨hstart, hstill⟩ := hnever hover hpatient
  have hkeys : (trio.run startedLate).startup.debouncer.queue.keys = [] := by
    rcases hend with ⟨_, hkeys⟩ | ⟨hphase, _⟩
    · exact hkeys
    · cases hstopped.symm.trans hphase
  have hopened : trio.startup.debouncer.history Debouncer.opened
      (trio.history debounceMoves neverStarted) = [] := by
    rcases hstart with ⟨hphase, _⟩ | ⟨_, hopened⟩
    · cases huninitialized.symm.trans hphase
    · exact hopened
  exact ⟨hreturned, hstopped, hkeys, fun later => (hquiet later).2.2.1, hover, hopened,
    fun later => (hstill later).1.trans huninitialized⟩

end Ensemble

/-! ## The whole program -/

/-- In the whole program the task of a controller that did not start the debouncer is over at once,
with what its start came to. -/
theorem Operator.supervisor_tellIdentity {operator : Operator} {told : Nat × Identity.Answer}
    {monitor : Simulation.Monitor} (hmonitor : operator.monitors[told.1]? = some monitor) :
    (operator.tellIdentity told).supervisor =
      match Controller.Task.ofStart ((monitor.controller.start operator.debouncer operator.now
          told.2).map Prod.snd) with
      | .owner => operator.supervisor
      | .over result => operator.supervisor.taskEnded (controllerTask told.1) operator.now
          (.ofResult result) := by
  simp only [tellIdentity, hmonitor]
  cases hstart : monitor.controller.start operator.debouncer operator.now told.2 with
  | error failure => rfl
  | ok outcome =>
      obtain ⟨debouncer, isOwner⟩ := outcome
      cases isOwner <;> rfl

/-- In the whole program the supervisor hears of the controller that started the debouncer only
when its task is over. -/
theorem Operator.reap_of_owner {operator : Operator}
    (howner : Controller.Task.owner.result? operator.debouncer = none) :
    operator.reap = operator := by
  unfold Controller.Task.result? at howner
  unfold reap
  cases hloop : operator.debouncer.loop <;> simp_all

/-- In the whole program the loop is cancelled when the tasks are told to end. -/
theorem Operator.debouncer_endTasks (operator : Operator) :
    operator.endTasks.debouncer = operator.debouncer.cancel := by
  have hfold : ∀ (tasks : List Nat) (before : Operator),
      (tasks.foldl (fun operator task => operator.taskEnded task .completed) before).debouncer =
        before.debouncer := by
    intro tasks
    induction tasks with
    | nil => exact fun _ => rfl
    | cons task tasks ih => exact fun before => ih (before.taskEnded task .completed)
  exact hfold _ _

end Rescan
