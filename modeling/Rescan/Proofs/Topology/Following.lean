import Rescan.Proofs.Steps
import Rescan.Proofs.Topology.Lookup
import Rescan.Simulation.Session

/-! # Following the services

The registry follows the services by the edits that their events make. What an event does is told
by what is looked up before and after it.
-/

namespace Rescan

namespace Resource.WatchEvent

/-- The object that an event reports to be there. -/
def announced? {α : Type} : WatchEvent α → Option α
  | .listed object | .applied object => some object
  | .listBegins | .listEnds | .deleted _ => none

end Resource.WatchEvent

namespace Topology

open Rescan.Resource (WatchEvent)

/-- A service registers an endpoint for a namespace. The service is in that namespace, or the
namespace is the scope of the cluster and the service is in the chosen one. -/
def Rules.Registers (rules : Rules) (service : Service) (ns : String) (endpoint : Url) : Prop :=
  service.endpoint? rules.port = some endpoint ∧
    (service.metadata.ns = some ns ∨
      ns = "" ∧ ∃ scope, rules.clusterScope = some scope ∧ service.metadata.ns = some scope)

theorem Rules.registers_iff {rules : Rules} {service : Service} {ns : String} {endpoint : Url} :
    rules.Registers service ns endpoint ↔
      ∃ namespaces, rules.registration? service = some (namespaces, endpoint) ∧
        ns ∈ namespaces := by
  cases hhome : service.metadata.ns with
  | none => simp [Registers, registration?, Service.endpoint?, hhome]
  | some home =>
      have hregistration : rules.registration? service =
          (service.endpoint? rules.port).map fun found =>
            (if rules.clusterScope = some home then [home, ""] else [home], found) := by
        rw [registration?, hhome]
        cases service.endpoint? rules.port <;> rfl
      have hserves : (some home = some ns ∨
            ns = "" ∧ ∃ scope, rules.clusterScope = some scope ∧ some home = some scope) ↔
          ns ∈ if rules.clusterScope = some home then [home, ""] else [home] := by
        by_cases hscope : rules.clusterScope = some home
        · simp [hscope, eq_comm]
        · simp [hscope, eq_comm]
      rw [Registers, hhome, hserves, hregistration]
      simp

theorem Rules.not_registers {rules : Rules} {service : Service}
    (hregistration : rules.registration? service = none) (ns : String) (endpoint : Url) :
    ¬rules.Registers service ns endpoint := by
  rw [registers_iff, hregistration]
  simp

theorem Rules.registers_iff_mem {rules : Rules} {service : Service} {namespaces : List String}
    {endpoint : Url} (hregistration : rules.registration? service = some (namespaces, endpoint))
    (ns : String) (other : Url) :
    rules.Registers service ns other ↔ ns ∈ namespaces ∧ other = endpoint := by
  rw [registers_iff, hregistration]
  constructor
  · rintro ⟨_, hsame, hmem⟩
    cases hsame
    exact ⟨hmem, rfl⟩
  · rintro ⟨hmem, rfl⟩
    exact ⟨namespaces, rfl, hmem⟩

/-- A service of a scan API with the given name. -/
def scanner (name : String) : Service := ⟨⟨"ns-a", name, none⟩, some [80]⟩

/-- The target that such a service registers. -/
def scannerTarget (name : String) : Target :=
  ⟨{ scheme := "http", host := some (.name (name ++ ".ns-a.svc")), path := .segments [""] }, none⟩

example : Rules.Registers {} (scanner "scan") "ns-a" (scannerTarget "scan").endpoint :=
  ⟨by decide +kernel, Or.inl rfl⟩

/-- The registry and the state of following the services. -/
@[ext] structure Follower where
  sync : Sync
  registry : Registry

namespace Follower

/-- The state after an event all of whose edits are made. -/
def follow (rules : Rules) (follower : Follower) (event : WatchEvent Service) : Follower :=
  let (sync, edits) := follower.sync.handle rules event
  ⟨sync, edits.foldl Registry.apply follower.registry⟩

/-- The state after a sequence of events. -/
abbrev run (rules : Rules) (follower : Follower) (events : List (WatchEvent Service)) : Follower :=
  Steps.run (follow rules) follower events

/-! ## The edits of an event -/

theorem lookup_foldl_put (namespaces : List String) (target : Target) (registry : Registry)
    (ns : String) :
    ((namespaces.map fun name => Registry.Edit.put name target).foldl Registry.apply
      registry).lookup ns = if ns ∈ namespaces then some target else registry.lookup ns := by
  induction namespaces generalizing registry with
  | nil => rfl
  | cons name rest ih =>
      rw [List.map_cons, List.foldl_cons, ih, Registry.apply, Registry.lookup_put]
      by_cases hname : ns = name
      · simp [hname]
      · simp [hname]

theorem lookup_foldl_removeEndpoint (namespaces : List String) (endpoint : Url)
    (registry : Registry) (ns : String) {target : Target} :
    ((namespaces.map fun name => Registry.Edit.removeEndpoint name endpoint).foldl Registry.apply
      registry).lookup ns = some target ↔
      registry.lookup ns = some target ∧ ¬(ns ∈ namespaces ∧ target.endpoint = endpoint) := by
  induction namespaces generalizing registry with
  | nil => simp
  | cons name rest ih =>
      rw [List.map_cons, List.foldl_cons, ih, Registry.apply, Registry.lookup_removeEndpoint,
        Option.filter_eq_some_iff, and_assoc, List.mem_cons]
      refine and_congr_right fun _ => ?_
      by_cases hname : ns = name
      · simp only [hname, true_and, true_or, beq_self_eq_true, Bool.true_and, Bool.not_eq_true',
          beq_eq_false_iff_ne]
        exact ⟨And.left, fun hne => ⟨hne, fun hmem => hne hmem.2⟩⟩
      · simp [hname]

section Follow

variable {rules : Rules} {follower : Follower} {event : WatchEvent Service} {service : Service}
  {ns : String} {target : Target}

/-- An announced service puts its endpoint over what was there for the namespaces for which it
registers one, and leaves the other namespaces alone. -/
theorem lookup_follow_announced (hevent : event.announced? = some service) :
    (follower.follow rules event).registry.lookup ns = some target ↔
      rules.Registers service ns target.endpoint ∧ target.token = rules.token ∨
        (∀ endpoint, ¬rules.Registers service ns endpoint) ∧
          follower.registry.lookup ns = some target := by
  have hhandle : follower.sync.handle rules event = follower.sync.register rules service := by
    cases event <;> cases hevent <;> rfl
  simp only [follow, hhandle, Sync.register]
  cases hregistration : rules.registration? service with
  | none => simp [Rules.not_registers hregistration]
  | some registration =>
      obtain ⟨namespaces, endpoint⟩ := registration
      simp only [lookup_foldl_put, Rules.registers_iff_mem hregistration]
      by_cases hmem : ns ∈ namespaces
      · obtain ⟨found, token⟩ := target
        simp [hmem, eq_comm]
      · simp [hmem]

/-- A deleted service takes the target of a namespace away if it registers just its endpoint. -/
theorem lookup_follow_deleted :
    (follower.follow rules (.deleted service)).registry.lookup ns = some target ↔
      follower.registry.lookup ns = some target ∧
        ¬rules.Registers service ns target.endpoint := by
  simp only [follow, Sync.handle, Sync.withdraw]
  cases hregistration : rules.registration? service with
  | none => simp [Rules.not_registers hregistration]
  | some registration =>
      rw [lookup_foldl_removeEndpoint, Rules.registers_iff_mem hregistration]

/-- At the end of a list the targets stay of just the namespaces that were noted. -/
theorem lookup_follow_listEnds {seen : List String} (hlisting : follower.sync.listing = some seen) :
    (follower.follow rules .listEnds).registry.lookup ns = some target ↔
      ns ∈ seen ∧ follower.registry.lookup ns = some target := by
  simp [follow, Sync.handle, hlisting, Registry.apply]

/-- An announced service notes the namespaces for which it registers in the list that is read, if
one is. -/
theorem exists_noted_of_announced (rules : Rules) (follower : Follower)
    (hevent : event.announced? = some service) :
    ∃ noted, (follower.follow rules event).sync.listing = follower.sync.listing.map (· ++ noted) ∧
      ∀ ns, ns ∈ noted ↔ ∃ endpoint, rules.Registers service ns endpoint := by
  have hhandle : follower.sync.handle rules event = follower.sync.register rules service := by
    cases event <;> cases hevent <;> rfl
  simp only [follow, hhandle, Sync.register]
  cases hregistration : rules.registration? service with
  | none => exact ⟨[], by simp, by simp [Rules.not_registers hregistration]⟩
  | some registration =>
      obtain ⟨namespaces, endpoint⟩ := registration
      exact ⟨namespaces, rfl, by simp [Rules.registers_iff_mem hregistration]⟩

/-- While a list is read an announced service notes the namespaces for which it registers. -/
theorem listing_follow_announced (rules : Rules) (hevent : event.announced? = some service)
    {seen : List String} (hlisting : follower.sync.listing = some seen) :
    ∃ noted, (follower.follow rules event).sync.listing = some (seen ++ noted) ∧
      ∀ ns, ns ∈ noted ↔ ∃ endpoint, rules.Registers service ns endpoint := by
  obtain ⟨noted, hnoted, hmem⟩ := exists_noted_of_announced rules follower hevent
  exact ⟨noted, by rw [hnoted, hlisting, Option.map_some], hmem⟩

/-- No event but the end of a list and a deletion takes a target away, and a deletion takes only
one away that has the endpoint of the service. -/
theorem deleted_of_lost (hevent : event ≠ .listEnds)
    (hbefore : follower.registry.lookup ns = some target)
    (hafter : (follower.follow rules event).registry.lookup ns = none) :
    ∃ service, event = .deleted service ∧ rules.Registers service ns target.endpoint := by
  have hlost (other : Target) :
      (follower.follow rules event).registry.lookup ns ≠ some other := by
    rw [hafter]
    simp
  -- An announced service leaves a namespace with its own target or with the one from before.
  have hkept (service : Service) (hannounced : event.announced? = some service) : False := by
    by_cases hregisters : ∃ endpoint, rules.Registers service ns endpoint
    · obtain ⟨endpoint, hregisters⟩ := hregisters
      exact hlost ⟨endpoint, rules.token⟩
        ((lookup_follow_announced hannounced).mpr (Or.inl ⟨hregisters, rfl⟩))
    · exact hlost target ((lookup_follow_announced hannounced).mpr
        (Or.inr ⟨not_exists.mp hregisters, hbefore⟩))
  cases event with
  | listBegins => exact absurd hbefore (hlost target)
  | listed service => exact (hkept service rfl).elim
  | listEnds => exact absurd rfl hevent
  | applied service => exact (hkept service rfl).elim
  | deleted service =>
      refine ⟨service, rfl, ?_⟩
      by_contra hregisters
      exact hlost target (lookup_follow_deleted.mpr ⟨hbefore, hregisters⟩)

end Follow

end Follower

end Topology

/-! ## Sessions -/

namespace Session

open Rescan.Topology (Follower Registry)

theorem foldl_edit (edits : List Registry.Edit) (session : Session) :
    (edits.foldl edit session).sync = session.sync ∧
      (edits.foldl edit session).rules = session.rules ∧
      (edits.foldl edit session).debouncer =
        edits.foldl Debounce.Debouncer.edit session.debouncer := by
  induction edits generalizing session with
  | nil => exact ⟨rfl, rfl, rfl⟩
  | cons change edits ih => exact ih (session.edit change)

theorem foldl_edit_registry (edits : List Registry.Edit) (debouncer : Debounce.Debouncer) :
    (edits.foldl Debounce.Debouncer.edit debouncer).registry =
      edits.foldl Registry.apply debouncer.registry := by
  induction edits generalizing debouncer with
  | nil => rfl
  | cons change edits ih => exact ih (debouncer.edit change)

theorem handleService_eq (session : Session) (event : Resource.WatchEvent Topology.Service) :
    (session.handleService event).sync = (session.sync.handle session.rules event).1 ∧
      (session.handleService event).rules = session.rules ∧
      (session.handleService event).debouncer =
        (session.sync.handle session.rules event).2.foldl Debounce.Debouncer.edit
          session.debouncer :=
  foldl_edit _ { session with sync := (session.sync.handle session.rules event).1 }

/-- The follower that a session contains. -/
def follower (session : Session) : Follower := ⟨session.sync, session.debouncer.registry⟩

/-- A session brings an event to its registry as a follower does. -/
theorem follower_handleService (session : Session)
    (event : Resource.WatchEvent Topology.Service) :
    (session.handleService event).follower = session.follower.follow session.rules event ∧
      (session.handleService event).rules = session.rules := by
  obtain ⟨hsync, hrules, hdebouncer⟩ := session.handleService_eq event
  refine ⟨?_, hrules⟩
  rw [follower, hsync, hdebouncer, foldl_edit_registry]
  rfl

theorem follower_foldl_handleService (session : Session)
    (events : List (Resource.WatchEvent Topology.Service)) :
    (events.foldl handleService session).follower = session.follower.run session.rules events := by
  induction events generalizing session with
  | nil => rfl
  | cons event events ih =>
      obtain ⟨hfollower, hrules⟩ := session.follower_handleService event
      rw [List.foldl_cons, ih, hfollower, hrules]
      rfl

end Session

end Rescan
