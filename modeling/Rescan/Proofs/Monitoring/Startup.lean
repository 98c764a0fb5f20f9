import Rescan.Proofs.Debounce.Attributed
import Rescan.Simulation.Operator
import Rescan.Simulation.Session

/-! # Controllers that start one debouncer

Any number of controllers are started over one debouncer. Each asks for the identity of the cluster
and goes on when it is answered, whatever the others do meanwhile. The first one that reaches the
debouncer with an identity starts its loop; those after it find it started.
-/

namespace Rescan

open Rescan.Debounce (Debouncer Phase)
open Rescan.Telemetry (Meter)
open Rescan.Topology (Registry)

/-- With settings that pass their check a controller that knows the identity starts the debouncer or
finds it started. -/
theorem Controller.start_of_check {debouncer : Debouncer}
    (hcheck : debouncer.settings.check = .ok ()) (controller : Controller) (now : Nat)
    (uid : Option String) :
    controller.start debouncer now (.ok uid) =
      .ok (debouncer.step (.start now (.ofCluster controller.stem uid)),
        decide (debouncer.queue.phase = .uninitialized)) := by
  unfold start
  rcases debouncer.start_cases now (.ofCluster controller.stem uid) with
    ⟨fault, hfault, _⟩ | ⟨_, hphase, h⟩ | ⟨_, hphase, started, h⟩
  · rw [hcheck] at hfault
    cases hfault
  · simp [Debouncer.step, h, hphase]
  · simp [Debouncer.step, h, hphase]

/-- The controller that owns the loop ends with it, one that does not own it ends at once, and one
that failed passes the failure on. -/
theorem Controller.Task.result?_ofStart_eq_some_iff (debouncer : Debouncer)
    (result : Except Failure Bool) (returned : Except Failure Unit) :
    (Controller.Task.ofStart result).result? debouncer = some returned ↔
      match result with
      | .ok true => debouncer.loop = .ended ∧ returned = .ok ()
      | .ok false => returned = .ok ()
      | .error failure => returned = .error failure := by
  cases result with
  | error failure => simp [Controller.Task.ofStart, Controller.Task.result?, eq_comm]
  | ok isOwner =>
      cases isOwner with
      | false => simp [Controller.Task.ofStart, Controller.Task.result?, eq_comm]
      | true =>
          cases hended : debouncer.loop <;>
            simp [Controller.Task.ofStart, Controller.Task.result?, hended, eq_comm]

/-- A start that does not make the controller the owner leaves the debouncer alone. -/
theorem Controller.eq_of_start {controller : Controller} {debouncer after : Debouncer} {now : Nat}
    {answer : Identity.Answer}
    (hstart : controller.start debouncer now answer = .ok (after, false)) : after = debouncer := by
  cases answer with
  | error fault => cases hstart
  | ok uid =>
      simp only [start] at hstart
      split at hstart <;> cases hstart
      rfl

namespace Startup

/-- How far the start of a controller has come. -/
inductive Stage where
  /-- It waits for the identity of the cluster. -/
  | asking
  /-- It has an answer and has not reached the debouncer yet. -/
  | told (answer : Identity.Answer)
  /-- It returned whether the controller started the debouncer, or a failure. -/
  | returned (result : Except Failure Bool)

/-- One start of a controller. -/
structure Call where
  controller : Controller
  stage : Stage := .asking

/-- One step of controllers that are started over one debouncer. -/
inductive Move where
  /-- The start of a controller begins with asking for the identity. -/
  | call (controller : Controller)
  | tell (index : Nat) (answer : Identity.Answer)
  /-- A start that was answered goes on to its end. -/
  | reach (index now : Nat)
  /-- The debouncer makes a move of another kind. -/
  | other (move : Debounce.Move)
    (hmove : ∀ now attribution, move ≠ .start now attribution := by simp)

end Startup

/-- A debouncer with the starts of its controllers. -/
structure Startup where
  debouncer : Debouncer
  calls : List Startup.Call := []

namespace Startup

/-- Before any controller is started. -/
def new (settings : Settings.Debouncer) (registry : Registry) (meter : Meter) : Startup :=
  { debouncer := .new settings registry meter }

def step (startup : Startup) : Move → Startup
  | .call controller => { startup with calls := startup.calls ++ [{ controller }] }
  | .tell index answer =>
    match startup.calls[index]? with
    | some ⟨controller, .asking⟩ =>
      { startup with calls := startup.calls.set index ⟨controller, .told answer⟩ }
    | _ => startup
  | .reach index now =>
    match startup.calls[index]? with
    | some ⟨controller, .told answer⟩ =>
      match controller.start startup.debouncer now answer with
      | .ok (debouncer, isOwner) =>
        { debouncer, calls := startup.calls.set index ⟨controller, .returned (.ok isOwner)⟩ }
      | .error failure =>
        { startup with calls := startup.calls.set index ⟨controller, .returned (.error failure)⟩ }
    | _ => startup
  | .other move _ => { startup with debouncer := startup.debouncer.step move }

abbrev run (startup : Startup) (moves : List Move) : Startup := Steps.run step startup moves

/-- What is observed of the moves of a run, in order. -/
abbrev history {α : Type} (observe : Startup → Move → List α) (startup : Startup)
    (moves : List Move) : List α :=
  Steps.history step observe startup moves

/-- What a start whose controller was told the identity returned. -/
structure Settlement where
  controller : Controller
  uid : Option String
  result : Except Failure Bool

/-- The tag that the controller gives to scans: its stem and the identifier, or nothing when there
is no identifier. -/
def Settlement.tag (settlement : Settlement) : String :=
  match settlement.uid with
  | some uid => if uid = "" then "" else settlement.controller.stem ++ uid
  | none => ""

/-- The start that a move leads to its end, if its controller was told the identity. -/
def settled (startup : Startup) : Move → List Settlement
  | .reach index now =>
    match startup.calls[index]? with
    | some ⟨controller, .told (.ok uid)⟩ =>
      [⟨controller, uid, (controller.start startup.debouncer now (.ok uid)).map Prod.snd⟩]
    | _ => []
  | _ => []

/-- What a move does to the debouncer. -/
def debounceMoves (startup : Startup) : Move → List Debounce.Move
  | .reach index now =>
    match startup.calls[index]? with
    | some ⟨controller, .told (.ok uid)⟩ => [.start now (.ofCluster controller.stem uid)]
    | _ => []
  | .other move _ => [move]
  | .call _ | .tell _ _ => []

theorem tag_ofCluster (settlement : Settlement) :
    (Attribution.ofCluster settlement.controller.stem settlement.uid).tag = settlement.tag := by
  unfold Attribution.ofCluster Settlement.tag
  cases settlement.uid with
  | none => rfl
  | some uid =>
      by_cases huid : uid = ""
      · simp [huid, Attribution.none]
      · simp [huid]

/-! ## What a move does -/

/-- A move brings a start whose controller was told the identity to its end, or it does nothing
that could start the debouncer. -/
theorem step_cases {startup : Startup} (hcheck : startup.debouncer.settings.check = .ok ())
    (move : Move) :
    (∃ controller uid now,
      startup.settled move = [⟨controller, uid,
        .ok (decide (startup.debouncer.queue.phase = .uninitialized))⟩] ∧
      startup.debounceMoves move = [.start now (.ofCluster controller.stem uid)]) ∨
    (startup.settled move = [] ∧
      ∀ inner ∈ startup.debounceMoves move, ∀ now attribution, inner ≠ .start now attribution) := by
  cases move with
  | call controller => exact Or.inr ⟨rfl, List.forall_mem_nil _⟩
  | tell index answer => exact Or.inr ⟨rfl, List.forall_mem_nil _⟩
  | reach index now =>
      simp only [settled, debounceMoves]
      split
      next controller uid hcall =>
        exact Or.inl ⟨controller, uid, now, by rw [controller.start_of_check hcheck]; rfl, rfl⟩
      · exact Or.inr ⟨rfl, List.forall_mem_nil _⟩
  | other inner hinner =>
      refine Or.inr ⟨rfl, fun other hother => ?_⟩
      obtain rfl := List.mem_singleton.mp hother
      exact hinner

/-- A start whose controller was not told the identity leaves the debouncer alone. -/
theorem reach_of_error {startup : Startup} {index : Nat} {controller : Controller}
    {fault : Resource.Fault}
    (hcall : startup.calls[index]? = some ⟨controller, .told (.error fault)⟩) (now : Nat) :
    startup.step (.reach index now) = { startup with
      calls := startup.calls.set index ⟨controller, .returned (.error (.monitoring fault))⟩ } := by
  simp only [step, hcall, Controller.start]

theorem reach_of_ok {startup : Startup} (hcheck : startup.debouncer.settings.check = .ok ())
    {index : Nat} {controller : Controller} {uid : Option String}
    (hcall : startup.calls[index]? = some ⟨controller, .told (.ok uid)⟩) (now : Nat) :
    startup.step (.reach index now) =
      { debouncer := startup.debouncer.step (.start now (.ofCluster controller.stem uid))
        calls := startup.calls.set index ⟨controller,
          .returned (.ok (decide (startup.debouncer.queue.phase = .uninitialized)))⟩ } := by
  simp only [step, hcall, controller.start_of_check hcheck]

theorem debouncer_step {startup : Startup} (hcheck : startup.debouncer.settings.check = .ok ())
    (move : Move) :
    (startup.step move).debouncer = startup.debouncer.run (startup.debounceMoves move) := by
  cases move with
  | call controller => rfl
  | tell index answer =>
      simp only [step]
      split <;> rfl
  | reach index now =>
      simp only [debounceMoves]
      split
      next controller uid hcall =>
        rw [reach_of_ok hcheck hcall]
        rfl
      next hother =>
        simp only [step]
        split
        next controller answer hcall =>
          cases answer with
          | error fault => rfl
          | ok uid => exact absurd hcall (hother controller uid)
        · rfl
  | other inner hinner => rfl

/-! ## Runs -/

section Run

variable {startup : Startup} (hcheck : startup.debouncer.settings.check = .ok ())

include hcheck

theorem settings_step (move : Move) :
    (startup.step move).debouncer.settings.check = .ok () := by
  rw [debouncer_step hcheck, Debouncer.run_settings, hcheck]

theorem debouncer_run (moves : List Move) :
    (startup.run moves).debouncer =
      startup.debouncer.run (startup.history debounceMoves moves) :=
  Steps.part_run_of_kept debouncer
    (P := fun other : Startup => other.debouncer.settings.check = .ok ()) hcheck
    (fun _ move h => settings_step h move) (fun _ move h => debouncer_step h move) moves

/-- Once the debouncer was started, every start that reaches it finds that out. -/
theorem result_of_started (hsound : startup.debouncer.Sound)
    (hphase : startup.debouncer.queue.phase ≠ .uninitialized) (moves : List Move) :
    ∀ settlement ∈ startup.history settled moves, settlement.result = .ok false := by
  induction moves generalizing startup with
  | nil => exact nofun
  | cons move moves ih =>
      intro settlement hmem
      rcases List.mem_append.mp hmem with hmem | hmem
      · rcases step_cases hcheck move with ⟨controller, uid, now, hsettled, _⟩ | ⟨hsettled, _⟩
        · rw [hsettled, List.mem_singleton] at hmem
          simp [hmem, hphase]
        · rw [hsettled] at hmem
          cases hmem
      · have hstep := debouncer_step hcheck move
        refine ih (settings_step hcheck move) (hstep ▸ hsound.run _) ?_ settlement hmem
        rw [hstep]
        exact Debouncer.phase_run_ne hsound hphase _

/-- Of the starts that reach an uninitialized debouncer the first one starts the loop, with the
attribution of its controller, and the others find it started. -/
theorem history_settled_cases (hsound : startup.debouncer.Sound)
    (hphase : startup.debouncer.queue.phase = .uninitialized) (moves : List Move) :
    (startup.history settled moves = [] ∧
      startup.debouncer.history Debouncer.opened (startup.history debounceMoves moves) = []) ∨
    ∃ first rest, startup.history settled moves = first :: rest ∧ first.result = .ok true ∧
      (∀ settlement ∈ rest, settlement.result = .ok false) ∧
      startup.debouncer.history Debouncer.opened (startup.history debounceMoves moves) =
        [.ofCluster first.controller.stem first.uid] := by
  induction moves generalizing startup with
  | nil => exact Or.inl ⟨rfl, rfl⟩
  | cons move moves ih =>
      have hstep := debouncer_step hcheck move
      have hafter : (startup.step move).debouncer.Sound := hstep ▸ hsound.run _
      simp only [Steps.history_cons, Steps.history_append, ← hstep]
      rcases step_cases hcheck move with
        ⟨controller, uid, now, hsettled, hmoves⟩ | ⟨hsettled, hmoves⟩
      · -- The first start that reaches the debouncer succeeds, and no other one does after it.
        have hstarted : startup.debouncer.start now (.ofCluster controller.stem uid) =
            .ok ((startup.step move).debouncer) := by
          rcases startup.debouncer.start_cases now (.ofCluster controller.stem uid) with
            ⟨fault, hfault, _⟩ | ⟨_, hne, _⟩ | ⟨_, _, started, h⟩
          · rw [hcheck] at hfault
            cases hfault
          · exact absurd hphase hne
          · rw [h, hstep, hmoves]
            simp [Debouncer.step, h]
        have hne : (startup.step move).debouncer.queue.phase ≠ .uninitialized := by
          rw [(Debouncer.start_eq_ok hstarted).2.2.1]
          decide
        simp only [hsettled, hmoves, Debouncer.history_opened_of_started hafter hne]
        refine Or.inr ⟨_, startup.step move |>.history settled moves, rfl, by simp [hphase],
          result_of_started (settings_step hcheck move) hafter hne moves, ?_⟩
        simp [Debouncer.opened, hstarted]
      · -- Without a start among its moves the debouncer stays uninitialized.
        have hopened :
            startup.debouncer.history Debouncer.opened (startup.debounceMoves move) = [] :=
          Debouncer.history_opened_of_ne_start hmoves
        simp only [hsettled, hopened, List.nil_append]
        refine ih (settings_step hcheck move) hafter ?_
        rcases Debouncer.history_opened_cases hsound hphase (startup.debounceMoves move) with
          ⟨_, huninitialized⟩ | ⟨_, hone, _⟩
        · rw [hstep, huninitialized]
        · rw [hopened] at hone
          cases hone

end Run

/-- Take any run of controllers over one new debouncer whose settings pass their check. A start
whose controller was not told the identity fails with that fault and leaves the debouncer alone; no
other start fails. Of those the first to reach the debouncer starts it and the others do not, so
that there is at most one loop, and whatever that loop hands over carries the tag of the first
controller. The task of that controller is over just if the loop has ended; the task of any other
one is over, with what its start came to. -/
theorem first_to_reach_starts_loop (settings : Settings.Debouncer) (registry : Registry)
    (meter : Meter) (hcheck : settings.check = .ok ()) (moves : List Move) :
    let initial := new settings registry meter
    let current := initial.run moves
    let inner := initial.history debounceMoves moves
    (∀ index now controller fault,
      current.calls[index]? = some ⟨controller, .told (.error fault)⟩ →
      current.step (.reach index now) = { current with
        calls := current.calls.set index ⟨controller, .returned (.error (.monitoring fault))⟩ }) ∧
    (∀ index now controller uid, current.calls[index]? = some ⟨controller, .told (.ok uid)⟩ →
      ∃ isOwner, current.settled (.reach index now) = [⟨controller, uid, .ok isOwner⟩] ∧
        (current.step (.reach index now)).calls[index]? =
          some ⟨controller, .returned (.ok isOwner)⟩) ∧
    (∀ first rest, initial.history settled moves = first :: rest →
      first.result = .ok true ∧ ∀ settlement ∈ rest, settlement.result = .ok false) ∧
    current.debouncer = initial.debouncer.run inner ∧
    (initial.debouncer.history Debouncer.opened inner).length ≤ 1 ∧
    (∀ entry ∈ initial.debouncer.history Debouncer.handed inner,
      entry.1 ∈ initial.debouncer.history Debouncer.launchedByLoop inner →
      ∃ first rest, initial.history settled moves = first :: rest ∧
        entry.2.2.managedBy = first.tag) ∧
    (∀ call ∈ current.calls, ∀ result, call.stage = .returned result → ∀ returned,
      (Controller.Task.ofStart result).result? current.debouncer = some returned ↔
        match result with
        | .ok true => current.debouncer.loop = .ended ∧ returned = .ok ()
        | .ok false => returned = .ok ()
        | .error failure => returned = .error failure) := by
  intro initial current inner
  have hsound : initial.debouncer.Sound := Debouncer.new_sound settings registry meter
  have hrun : current.debouncer = initial.debouncer.run inner := debouncer_run hcheck moves
  have hcurrent : current.debouncer.settings.check = .ok () := by
    rw [hrun, Debouncer.run_settings]
    exact hcheck
  have hcases := history_settled_cases hcheck hsound rfl moves
  refine ⟨fun index now controller fault hcall => reach_of_error hcall now, ?_, ?_, hrun, ?_, ?_,
    ?_⟩
  · intro index now controller uid hcall
    refine ⟨decide (current.debouncer.queue.phase = .uninitialized), ?_, ?_⟩
    · simp only [settled, hcall, controller.start_of_check hcurrent]
      rfl
    · rw [reach_of_ok hcurrent hcall]
      simp [(List.getElem?_eq_some_iff.mp hcall).1]
  · intro first rest hsettled
    rcases hcases with ⟨hnone, _⟩ | ⟨other, others, hsome, hfirst, hrest, _⟩
    · rw [hsettled] at hnone
      cases hnone
    · rw [hsettled] at hsome
      cases hsome
      exact ⟨hfirst, hrest⟩
  · rcases hcases with ⟨_, hnone⟩ | ⟨_, _, _, _, _, hone⟩
    · simp [inner, hnone]
    · simp [inner, hone]
  · intro entry hentry hloop
    obtain ⟨_, _, _, _, hhanded⟩ := Steps.exists_of_mem_history hentry
    have hopened := Debouncer.attribution_mem_opened hsound rfl hloop
    rcases hcases with ⟨_, hnone⟩ | ⟨first, rest, hsome, _, _, hone⟩
    · rw [hnone] at hopened
      cases hopened
    · refine ⟨first, rest, hsome, ?_⟩
      rw [hone, List.mem_singleton] at hopened
      rw [Debouncer.request_of_mem_handed hhanded, ← tag_ofCluster, ← hopened]
      rfl
  · exact fun call _ result _ returned =>
      Controller.Task.result?_ofStart_eq_some_iff current.debouncer result returned

/-- Three controllers of pods race: the first one cannot ask for the identity, the third one is
answered before the second one, which reaches the debouncer first. The loop then drains a key. -/
def race : List Move :=
  let controller : Controller := { kind := ⟨"pod"⟩ }
  [.call controller, .call controller, .call controller,
    .tell 0 (.error (.clusterUnreachable "refused")), .tell 2 (.ok none), .tell 1 (.ok (some "u")),
    .reach 1 0, .reach 2 1,
    .other (.edit (.put "ns-a" ⟨{ scheme := "http", path := .segments [] }, none⟩)),
    .other (.add ⟨"pod", "ns-a", "x"⟩), .other (.tick 5000), .other (.poll .loop),
    .other (.send ⟨0, ⟨"pod", "ns-a", "x"⟩, ⟨"scanwatch-operator-u"⟩, .launched⟩)]

/-- After the race the start of the first controller is still to fail. The second one won, so that
the request of the loop carries its tag and its task goes on; the task of the third one is over. -/
theorem first_to_reach_starts_loop_race :
    let raced := (new {} .empty {}).run race
    (raced.step (.reach 0 2)).debouncer = raced.debouncer ∧
    (∃ first rest, (new {} .empty {}).history settled race = first :: rest ∧
      first.result = .ok true ∧ first.tag = "scanwatch-operator-u") ∧
    (Controller.Task.ofStart (.ok true)).result? raced.debouncer = none ∧
    (Controller.Task.ofStart (.ok false)).result? raced.debouncer = some (.ok ()) := by
  intro raced
  have hcheck : Settings.Debouncer.check {} = .ok () := by decide
  obtain ⟨hfails, _, hresults, _, _, htag, htasks⟩ :=
    first_to_reach_starts_loop {} .empty {} hcheck race
  let controller : Controller := { kind := ⟨"pod"⟩ }
  have hcalls : raced.calls =
      [⟨controller, .told (.error (.clusterUnreachable "refused"))⟩,
        ⟨controller, .returned (.ok true)⟩, ⟨controller, .returned (.ok false)⟩] := rfl
  have hfirst : raced.calls[0]? =
      some ⟨controller, .told (.error (.clusterUnreachable "refused"))⟩ := by
    rw [hcalls]
    rfl
  have hsecond : (⟨controller, .returned (.ok true)⟩ : Call) ∈ raced.calls := by simp [hcalls]
  have hthird : (⟨controller, .returned (.ok false)⟩ : Call) ∈ raced.calls := by simp [hcalls]
  have ⟨hhanded, hlaunched, hrunning⟩ :
      (new {} .empty {}).debouncer.history Debouncer.handed
          ((new {} .empty {}).history debounceMoves race) =
        [(⟨0, ⟨"pod", "ns-a", "x"⟩, ⟨"scanwatch-operator-u"⟩, .launched⟩,
          ⟨{ scheme := "http", path := .segments [] }, none⟩,
          ⟨"pod:ns-a:x", "pod", "ns-a", "x", "scanwatch-operator-u"⟩)] ∧
      (new {} .empty {}).debouncer.history Debouncer.launchedByLoop
          ((new {} .empty {}).history debounceMoves race) =
        [⟨0, ⟨"pod", "ns-a", "x"⟩, ⟨"scanwatch-operator-u"⟩, .launched⟩] ∧
      ((new {} .empty {}).run race).debouncer.loop ≠ .ended := by
    decide +kernel
  refine ⟨by rw [hfails 0 2 controller _ hfirst], ?_, ?_, ?_⟩
  · obtain ⟨first, rest, hsettled, htagged⟩ := htag _ (hhanded ▸ List.mem_singleton_self _)
      (hlaunched ▸ List.mem_singleton_self _)
    exact ⟨first, rest, hsettled, (hresults first rest hsettled).1, htagged.symm⟩
  · refine Option.eq_none_iff_forall_ne_some.mpr fun returned hreturned => ?_
    exact hrunning ((htasks _ hsecond _ rfl returned).mp hreturned).1
  · exact (htasks _ hthird _ rfl _).mpr rfl

end Startup

/-! ## Sessions and the whole program -/

/-- Asking for the identity leaves all else of a session alone. -/
theorem Session.sim_askFor (session : Session) (member : Simulation.Member) :
    (session.askFor member).1.sim = session.sim := by
  unfold askFor
  cases member.identity with
  | none => rfl
  | some name =>
      simp only [Option.map_some, ask]
      cases session.identities.lookup name <;> rfl

/-- A session starts a controller without anything in between. -/
theorem Session.startMember_eq_run (session : Session) (member : Simulation.Member) :
    let startup := ({ debouncer := session.debouncer } : Startup).run
      [.call member.controller, .tell 0 (session.askFor member).2, .reach 0 session.sim.now]
    (session.startMember member).1.debouncer = startup.debouncer ∧
      startup.calls = [⟨member.controller, .returned (session.startMember member).2⟩] := by
  have hsim := session.sim_askFor member
  cases hask : session.askFor member with
  | mk asked answer =>
      simp only [hask] at hsim
      cases hstart : member.controller.start session.debouncer session.sim.now answer with
      | error failure =>
          simp only [debouncer] at hstart
          simp [startMember, hask, debouncer, hsim, Startup.run, Startup.step, hstart]
      | ok outcome =>
          simp only [debouncer] at hstart
          simp [startMember, hask, debouncer, hsim, Startup.run, Startup.step, hstart,
            withDebouncer]

/-- In the whole program a controller that is told the identity reaches the debouncer at once. -/
theorem Operator.debouncer_tellIdentity {operator : Operator} {told : Nat × Identity.Answer}
    {monitor : Simulation.Monitor} (hmonitor : operator.monitors[told.1]? = some monitor) :
    (operator.tellIdentity told).debouncer =
      (({ debouncer := operator.debouncer, calls := [⟨monitor.controller, .told told.2⟩] } :
        Startup).step (.reach 0 operator.now)).debouncer := by
  simp only [tellIdentity, hmonitor, Startup.step, List.getElem?_cons_zero]
  cases hstart : monitor.controller.start operator.debouncer operator.now told.2 with
  | error failure => rfl
  | ok outcome =>
      obtain ⟨debouncer, isOwner⟩ := outcome
      cases isOwner with
      | true => rfl
      | false => rw [Controller.eq_of_start hstart]; rfl

end Rescan
