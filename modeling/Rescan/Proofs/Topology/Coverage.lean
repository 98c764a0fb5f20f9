import Rescan.Proofs.Topology.Cluster

/-! # Targets and live services

How the targets of a follower fit the services of the cluster under watch. A namespace with a live
service has a target unless the service that registered last for it was deleted since. A target
belongs to a live service unless its service was changed so that it has no endpoint any more.
-/

namespace Rescan.Topology

open Rescan.Resource (WatchEvent)

variable {rules : Rules}

/-- The service that registered last for the namespace was deleted since, or another one with its
endpoint. -/
def TakenBack (rules : Rules) (events : List (WatchEvent Service)) (ns : String) : Prop :=
  ∃ service endpoint later, LastRegistered rules events ns service endpoint later ∧
    ∃ removed, .deleted removed ∈ later ∧ rules.Registers removed ns endpoint

/-- Among some events the service is announced without an endpoint. -/
def Lapsed (rules : Rules) (service : Service) (events : List (WatchEvent Service)) : Prop :=
  ∃ event ∈ events, ∃ other, event.announced? = some other ∧
    other.identity = service.identity ∧ other.endpoint? rules.port = none

theorem Lapsed.append {service : Service} {events : List (WatchEvent Service)}
    (hlapsed : Lapsed rules service events) (more : List (WatchEvent Service)) :
    Lapsed rules service (events ++ more) := by
  obtain ⟨event, hevent, hother⟩ := hlapsed
  exact ⟨event, List.mem_append_left _ hevent, hother⟩

/-- With a port in place of its own a service that has an endpoint never lapses. -/
theorem Rules.Registers.not_lapsed {service : Service} {ns : String} {endpoint : Url}
    (hregisters : rules.Registers service ns endpoint) (hport : rules.port.isSome)
    (events : List (WatchEvent Service)) : ¬Lapsed rules service events := by
  rintro ⟨_, _, other, _, hidentity, hnone⟩
  obtain ⟨port, hport⟩ := Option.isSome_iff_exists.mp hport
  have hendpoint := hregisters.1
  rw [hport] at hnone hendpoint
  rw [Service.endpoint?_eq_of_identity port hidentity, hendpoint] at hnone
  cases hnone

namespace Watched

/-- Every namespace for which a live service registers has a target. -/
def Covers (rules : Rules) (watched : Watched) : Prop :=
  ∀ service ∈ watched.live, ∀ ns endpoint, rules.Registers service ns endpoint →
    (watched.follower.registry.lookup ns).isSome

/-- Every target is the endpoint of a live service that registers for its namespace. -/
def Current (rules : Rules) (watched : Watched) : Prop :=
  ∀ ns target, watched.follower.registry.lookup ns = some target →
    ∃ service ∈ watched.live, rules.Registers service ns target.endpoint

/-! ## What holds all along a history -/

/-- What a follower knows of a cluster under watch. -/
structure Informed (rules : Rules) (watched : Watched) : Prop where
  announced : ∀ service ∈ watched.live, ∃ event ∈ watched.recent,
    event.announced? = some service
  lookup_iff : ∀ ns target, watched.follower.registry.lookup ns = some target ↔
    Follower.Standing rules watched.recent ns target
  /-- The service that registered a target is still there as it was, or it has lapsed. -/
  accounted : ∀ ns target service later,
    watched.follower.registry.lookup ns = some target →
    LastRegistered rules watched.recent ns service target.endpoint later →
    service ∈ watched.live ∨ Lapsed rules service later

theorem informed_empty (rules : Rules) : Informed rules {} where
  announced service hservice := by cases hservice
  lookup_iff ns target := by
    constructor
    · intro hlookup
      cases hlookup
    · rintro ⟨first, _, _, _, hnil, _⟩
      cases first <;> cases hnil
  accounted ns target service later hlookup := by cases hlookup

/-- A complete list tells all that there is. -/
theorem informed_listed (watched : Watched) (inventory : Inventory) :
    Informed rules (watched.step rules (.listed inventory)) where
  announced service hservice := ⟨.listed service, List.mem_map_of_mem hservice, rfl⟩
  lookup_iff ns target := Follower.lookup_relist rules watched.follower (by simp) ns target
  accounted ns target service later _ hlast := Or.inl hlast.of_listed.1

section Step

variable {watched : Watched} (hinformed : Informed rules watched)

include hinformed

theorem Informed.applied (service : Service) :
    Informed rules (watched.step rules (.applied service)) := by
  rw [step_applied]
  refine ⟨fun other hother => ?_, fun ns target => ?_, ?_⟩
  · rcases Inventory.mem_put.mp hother with rfl | ⟨hother, _⟩
    · exact ⟨.applied other, List.mem_append_right _ (List.mem_singleton_self _), rfl⟩
    · obtain ⟨event, hevent, hannounced⟩ := hinformed.announced other hother
      exact ⟨event, List.mem_append_left _ hevent, hannounced⟩
  · exact Follower.lookup_announced_iff_standing rfl fun _ => hinformed.lookup_iff ns target
  · intro ns target registered later hlookup hlast
    rcases lastRegistered_concat.mp hlast with ⟨_, hsame, _⟩ | ⟨before, rfl, hlast, hnone⟩
    · cases hsame
      exact Or.inl (Inventory.mem_put.mpr (Or.inl rfl))
    -- The target was there before, as the applied service does not register for its namespace.
    have hbefore : watched.follower.registry.lookup ns = some target := by
      rcases (Follower.lookup_follow_announced rfl).mp hlookup with ⟨hregisters, _⟩ | ⟨_, hbefore⟩
      · exact absurd hregisters (hnone service rfl target.endpoint)
      · exact hbefore
    rcases hinformed.accounted ns target registered before hbefore hlast with hlive | hlapsed
    · by_cases hidentity : service.identity = registered.identity
      · refine Or.inr ⟨.applied service, by simp, service, rfl, hidentity, ?_⟩
        rw [Option.eq_none_iff_forall_ne_some]
        exact fun url hurl => hnone service rfl url (hlast.2.1.of_identity hidentity hurl)
      · exact Or.inl (Inventory.mem_put.mpr (Or.inr ⟨hlive, Ne.symm hidentity⟩))
    · exact Or.inr (hlapsed.append _)

theorem Informed.removed (identity : Option String × Option String) :
    Informed rules (watched.step rules (.removed identity)) := by
  cases hfind : watched.live.find? identity with
  | none =>
      rw [step_removed_of_none rules hfind]
      refine ⟨fun service hservice => ?_, hinformed.lookup_iff, ?_⟩
      · exact hinformed.announced service (Inventory.mem_without.mp hservice).1
      · intro ns target service later hlookup hlast
        refine (hinformed.accounted ns target service later hlookup hlast).imp_left fun hlive => ?_
        exact Inventory.mem_without.mpr ⟨hlive, Inventory.identity_ne_of_find? hfind hlive⟩
  | some service =>
      rw [step_removed_of_some rules hfind]
      obtain ⟨hservice, rfl⟩ := Inventory.mem_of_find? hfind
      refine ⟨fun other hother => ?_, fun ns target => ?_, ?_⟩
      · obtain ⟨event, hevent, hannounced⟩ :=
          hinformed.announced other (Inventory.mem_without.mp hother).1
        exact ⟨event, List.mem_append_left _ hevent, hannounced⟩
      · exact Follower.lookup_deleted_iff_standing (hinformed.lookup_iff ns target)
      · intro ns target registered later hlookup hlast
        rcases lastRegistered_concat.mp hlast with ⟨_, hsame, _⟩ | ⟨before, rfl, hlast, _⟩
        · cases hsame
        obtain ⟨hbefore, hother⟩ := Follower.lookup_follow_deleted.mp hlookup
        rcases hinformed.accounted ns target registered before hbefore hlast with hlive | hlapsed
        · -- The removed service is another one, as the target would be gone with it.
          refine Or.inl (Inventory.mem_without.mpr ⟨hlive, fun hidentity => hother ?_⟩)
          rw [← Inventory.eq_of_identity hlive hservice hidentity]
          exact hlast.2.1
        · exact Or.inr (hlapsed.append _)

theorem Informed.step (happening : Happening) :
    Informed rules (watched.step rules happening) := by
  cases happening with
  | listed inventory => exact informed_listed watched inventory
  | applied service => exact hinformed.applied service
  | removed identity => exact hinformed.removed identity

end Step

theorem informed_run (rules : Rules) (history : List Happening) :
    Informed rules (run rules history) := by
  induction history using List.reverseRecOn with
  | nil => exact informed_empty rules
  | append_singleton history happening ih =>
      rw [run, Steps.run_concat]
      exact ih.step happening

/-! ## What is looked up -/

section Lookup

variable {watched : Watched} (hinformed : Informed rules watched) {ns : String}

include hinformed

theorem Informed.exists_lastRegistered_of_lookup {target : Target}
    (hlookup : watched.follower.registry.lookup ns = some target) :
    ∃ service later, LastRegistered rules watched.recent ns service target.endpoint later ∧
      ∀ removed, .deleted removed ∈ later → ¬rules.Registers removed ns target.endpoint :=
  (standing_iff_lastRegistered.mp ((hinformed.lookup_iff ns target).mp hlookup)).2

theorem Informed.not_takenBack (hsome : (watched.follower.registry.lookup ns).isSome) :
    ¬TakenBack rules watched.recent ns := by
  obtain ⟨target, hlookup⟩ := Option.isSome_iff_exists.mp hsome
  obtain ⟨last, later, hlast, hkept⟩ := hinformed.exists_lastRegistered_of_lookup hlookup
  rintro ⟨other, url, rest, hother, removed, hremoved, hgone⟩
  obtain ⟨_, rfl, rfl⟩ := hother.unique hlast
  exact hkept removed hremoved hgone

theorem Informed.isSome_lookup {service : Service} {endpoint : Url}
    (hlive : service ∈ watched.live) (hregisters : rules.Registers service ns endpoint)
    (hkept : ¬TakenBack rules watched.recent ns) :
    (watched.follower.registry.lookup ns).isSome := by
  obtain ⟨event, hevent, hannounced⟩ := hinformed.announced service hlive
  obtain ⟨last, url, later, hlast⟩ := exists_lastRegistered hevent hannounced hregisters
  have hstanding : Follower.Standing rules watched.recent ns ⟨url, rules.token⟩ := by
    refine standing_iff_lastRegistered.mpr ⟨rfl, last, later, hlast, ?_⟩
    exact fun removed hremoved hgone => hkept ⟨last, url, later, hlast, removed, hremoved, hgone⟩
  rw [(hinformed.lookup_iff ns _).mpr hstanding]
  rfl

end Lookup

/-- Right after a complete list, whatever was known before, just the namespaces of live services
have targets, and these are endpoints of live services. -/
theorem covers_and_current_listed (rules : Rules) (watched : Watched) (inventory : Inventory) :
    (watched.step rules (.listed inventory)).Covers rules ∧
      (watched.step rules (.listed inventory)).Current rules := by
  have hinformed : Informed rules (watched.step rules (.listed inventory)) :=
    informed_listed watched inventory
  constructor
  · intro service hlive ns endpoint hregisters
    refine hinformed.isSome_lookup hlive hregisters ?_
    rintro ⟨_, _, later, hlast, removed, hremoved, _⟩
    exact hlast.of_listed.2 removed hremoved
  · intro ns target hlookup
    obtain ⟨service, later, hlast, _⟩ := hinformed.exists_lastRegistered_of_lookup hlookup
    exact ⟨service, hlast.of_listed.1, hlast.2.1⟩

/-! ## Namespaces with live services -/

/-- A namespace for which a live service registers has a target, unless since the last complete list
a service was deleted that has the endpoint registered last for that namespace, and after that
registration. -/
theorem live_namespace_has_target (rules : Rules) (history : List Happening) (service : Service)
    (ns : String) (endpoint : Url) (hlive : service ∈ (run rules history).live)
    (hregisters : rules.Registers service ns endpoint) :
    ((run rules history).follower.registry.lookup ns).isSome ↔
      ¬TakenBack rules (run rules history).recent ns := by
  have hinformed := informed_run rules history
  exact ⟨hinformed.not_takenBack, hinformed.isSome_lookup hlive hregisters⟩

/-- A service gives way to another one in its namespace. -/
def handover : List Happening :=
  [.listed ⟨[scanner "old"], by decide⟩, .applied (scanner "new"),
    .removed (scanner "old").identity]

/-- The other one is live and serves the namespace. -/
theorem live_namespace_has_target_handover :
    scanner "new" ∈ (run {} handover).live ∧
      Rules.Registers {} (scanner "new") "ns-a" (scannerTarget "new").endpoint ∧
      ¬TakenBack {} (run {} handover).recent "ns-a" := by
  have hlive : scanner "new" ∈ (run {} handover).live :=
    Inventory.mem_without.mpr ⟨Inventory.mem_put.mpr (Or.inl rfl), by decide⟩
  have hregisters : Rules.Registers {} (scanner "new") "ns-a" (scannerTarget "new").endpoint :=
    ⟨by decide +kernel, Or.inl rfl⟩
  have hsome : ((run {} handover).follower.registry.lookup "ns-a").isSome = true := by
    decide +kernel
  exact ⟨hlive, hregisters,
    (live_namespace_has_target {} handover _ _ _ hlive hregisters).mp hsome⟩

/-- A service comes and goes while another one is there in its namespace. -/
def episode : List Happening :=
  [.listed ⟨[scanner "old"], by decide⟩, .applied (scanner "new"),
    .removed (scanner "new").identity]

/-- The service that was there all the time is forgotten. -/
theorem live_namespace_without_target : ¬Covers {} (run {} episode) := by
  intro hcovers
  have hlive : scanner "old" ∈ (run {} episode).live :=
    Inventory.mem_without.mpr
      ⟨Inventory.mem_put.mpr (Or.inr ⟨List.mem_singleton_self _, by decide⟩), by decide⟩
  have hregisters : Rules.Registers {} (scanner "old") "ns-a" (scannerTarget "old").endpoint :=
    ⟨by decide +kernel, Or.inl rfl⟩
  have hnone : (run {} episode).follower.registry.lookup "ns-a" = none := by
    decide +kernel
  have hsome := hcovers _ hlive _ _ hregisters
  rw [hnone] at hsome
  cases hsome

/-! ## Targets of live services -/

/-- Every target was registered by the service that registered last for its namespace. That service
is live and has this endpoint, unless it was announced without an endpoint after that. With a port
in place of those of the services it is live always. -/
theorem target_live_or_lapsed (rules : Rules) (history : List Happening) (ns : String)
    (target : Target)
    (hlookup : (run rules history).follower.registry.lookup ns = some target) :
    ∃ service later,
      LastRegistered rules (run rules history).recent ns service target.endpoint later ∧
      (service ∈ (run rules history).live ∨ Lapsed rules service later) ∧
      (rules.port.isSome → service ∈ (run rules history).live) := by
  have hinformed := informed_run rules history
  obtain ⟨service, later, hlast, _⟩ := hinformed.exists_lastRegistered_of_lookup hlookup
  have haccounted := hinformed.accounted ns target service later hlookup hlast
  refine ⟨service, later, hlast, haccounted, fun hport => ?_⟩
  exact haccounted.resolve_right (hlast.2.1.not_lapsed hport later)

/-- A service loses its port and is removed after that. -/
def retreat : List Happening :=
  [.listed ⟨[scanner "scan"], by decide⟩, .applied { scanner "scan" with ports := some [] },
    .removed (scanner "scan").identity]

theorem lookup_retreat :
    (run {} retreat).follower.registry.lookup "ns-a" = some (scannerTarget "scan") := by
  decide +kernel

theorem not_mem_live_retreat (service : Service) : service ∉ (run {} retreat).live := by
  have hnil : (run {} retreat).live.services = [] := by decide +kernel
  intro hlive
  change service ∈ (run {} retreat).live.services at hlive
  rw [hnil] at hlive
  cases hlive

/-- Its target is still there, and it is a service that has lapsed. -/
theorem target_live_or_lapsed_retreat :
    (run {} retreat).follower.registry.lookup "ns-a" = some (scannerTarget "scan") ∧
      ∃ service later, Rules.Registers {} service "ns-a" (scannerTarget "scan").endpoint ∧
        service ∉ (run {} retreat).live ∧ Lapsed {} service later := by
  obtain ⟨service, later, hlast, haccounted, _⟩ :=
    target_live_or_lapsed {} retreat _ _ lookup_retreat
  exact ⟨lookup_retreat, service, later, hlast.2.1, not_mem_live_retreat service,
    haccounted.resolve_left (not_mem_live_retreat service)⟩

/-- No service is live, and there is a target all the same. -/
theorem target_without_service : ¬Current {} (run {} retreat) := by
  intro hcurrent
  obtain ⟨service, hlive, _⟩ := hcurrent _ _ lookup_retreat
  exact not_mem_live_retreat service hlive

end Watched

end Rescan.Topology
