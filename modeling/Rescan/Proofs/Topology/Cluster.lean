import Rescan.Proofs.Topology.Relist

/-! # Clusters under watch

Services of a cluster are created, changed and removed, and a watch tells a follower of it: it
lists all services at first and whenever it lost track, and reports each change in between. The
targets that the follower knows then are told by the last registration for each namespace since
the last complete list.
-/

namespace Rescan.Topology

open Rescan.Resource (WatchEvent)

/-- What tells the services of a cluster apart. -/
def Service.identity (service : Service) : Option String × Option String :=
  (service.metadata.ns, service.metadata.name)

/-- With a port of its own choice the endpoint depends on nothing that can change. -/
theorem Service.endpoint?_eq_of_identity {service other : Service} (port : UInt16)
    (hidentity : service.identity = other.identity) :
    service.endpoint? (some port) = other.endpoint? (some port) := by
  obtain ⟨hns, hname⟩ := Prod.mk.inj hidentity
  simp only [endpoint?, port?, hns, hname]

/-- A service goes on to register for the same namespaces as long as it has an endpoint. -/
theorem Rules.Registers.of_identity {rules : Rules} {service other : Service} {ns : String}
    {endpoint url : Url} (hregisters : rules.Registers service ns endpoint)
    (hidentity : other.identity = service.identity) (hurl : other.endpoint? rules.port = some url) :
    rules.Registers other ns url := by
  obtain ⟨hns, _⟩ := Prod.mk.inj hidentity
  exact ⟨hurl, by rw [hns]; exact hregisters.2⟩

/-- The services of a cluster at one time. -/
structure Inventory where
  services : List Service
  distinct : (services.map Service.identity).Nodup

namespace Inventory

def empty : Inventory := ⟨[], .nil⟩

instance : Membership Service Inventory := ⟨fun inventory service => service ∈ inventory.services⟩

/-- The service with an identity, if there is one. -/
def find? (inventory : Inventory) (identity : Option String × Option String) : Option Service :=
  inventory.services.find? (·.identity == identity)

/-- The inventory without the service of an identity. -/
def without (inventory : Inventory) (identity : Option String × Option String) : Inventory :=
  ⟨inventory.services.filter (·.identity != identity),
    inventory.distinct.sublist (List.filter_sublist.map _)⟩

theorem mem_without {inventory : Inventory} {identity : Option String × Option String}
    {service : Service} :
    service ∈ inventory.without identity ↔ service ∈ inventory ∧ service.identity ≠ identity := by
  change service ∈ List.filter _ _ ↔ service ∈ inventory.services ∧ _
  rw [List.mem_filter, bne_iff_ne]

/-- The inventory with a service in place of any other of its identity. -/
def put (inventory : Inventory) (service : Service) : Inventory where
  services := service :: (inventory.without service.identity).services
  distinct := by
    refine List.nodup_cons.mpr ⟨?_, (inventory.without service.identity).distinct⟩
    intro hmem
    obtain ⟨other, hother, hidentity⟩ := List.mem_map.mp hmem
    exact (mem_without.mp hother).2 hidentity

theorem mem_put {inventory : Inventory} {service other : Service} :
    other ∈ inventory.put service ↔
      other = service ∨ other ∈ inventory ∧ other.identity ≠ service.identity := by
  rw [← mem_without]
  exact List.mem_cons

theorem mem_of_find? {inventory : Inventory} {identity : Option String × Option String}
    {service : Service} (hfind : inventory.find? identity = some service) :
    service ∈ inventory ∧ service.identity = identity :=
  ⟨List.mem_of_find?_eq_some hfind, by simpa using List.find?_some hfind⟩

theorem identity_ne_of_find? {inventory : Inventory} {identity : Option String × Option String}
    (hfind : inventory.find? identity = none) {service : Service} (hmem : service ∈ inventory) :
    service.identity ≠ identity := by
  simpa using List.find?_eq_none.mp hfind service hmem

/-- No other service of the inventory has the identity of one of them. -/
theorem eq_of_identity {inventory : Inventory} {service other : Service}
    (hservice : service ∈ inventory) (hother : other ∈ inventory)
    (hidentity : service.identity = other.identity) : service = other :=
  List.inj_on_of_nodup_map inventory.distinct hservice hother hidentity

end Inventory

/-! ## Histories -/

/-- What happens to the services of a cluster or to the watch on them. -/
inductive Happening where
  /-- The watch lists all services. It may have missed changes before. -/
  | listed (inventory : Inventory)
  /-- A service is created or changed. -/
  | applied (service : Service)
  /-- The service of an identity is removed. -/
  | removed (identity : Option String × Option String)

namespace Inventory

/-- The services after something happened. -/
def after (inventory : Inventory) : Happening → Inventory
  | .listed listed => listed
  | .applied service => inventory.put service
  | .removed identity => inventory.without identity

/-- The events that the watch delivers when something happens. A removed service is reported as it
was reported last. -/
def delivered (inventory : Inventory) : Happening → List (WatchEvent Service)
  | .listed listed => Follower.relist (listed.services.map .listed)
  | .applied service => [.applied service]
  | .removed identity => (inventory.find? identity).toList.map .deleted

end Inventory

/-- A cluster under watch with a follower. -/
structure Watched where
  /-- The services as they were reported last. -/
  live : Inventory := .empty
  /-- The services of the last complete list and what was delivered since. -/
  recent : List (WatchEvent Service) := []
  follower : Follower := ⟨{}, .empty⟩

namespace Watched

/-- Something happens, and the follower gets all events that the watch delivers about it. -/
def step (rules : Rules) (watched : Watched) (happening : Happening) : Watched where
  live := watched.live.after happening
  recent :=
    match happening with
    | .listed inventory => inventory.services.map .listed
    | .applied _ | .removed _ => watched.recent ++ watched.live.delivered happening
  follower := watched.follower.run rules (watched.live.delivered happening)

theorem step_applied (rules : Rules) (watched : Watched) (service : Service) :
    watched.step rules (.applied service) =
      { live := watched.live.put service
        recent := watched.recent ++ [.applied service]
        follower := watched.follower.follow rules (.applied service) } := rfl

/-- When there was no such service nothing is delivered. -/
theorem step_removed_of_none (rules : Rules) {watched : Watched}
    {identity : Option String × Option String} (hfind : watched.live.find? identity = none) :
    watched.step rules (.removed identity) =
      { watched with live := watched.live.without identity } := by
  have hdelivered : watched.live.delivered (.removed identity) = [] := by
    rw [Inventory.delivered, hfind]
    rfl
  rw [step, hdelivered, List.append_nil]
  rfl

theorem step_removed_of_some (rules : Rules) {watched : Watched}
    {identity : Option String × Option String} {service : Service}
    (hfind : watched.live.find? identity = some service) :
    watched.step rules (.removed identity) =
      { live := watched.live.without identity
        recent := watched.recent ++ [.deleted service]
        follower := watched.follower.follow rules (.deleted service) } := by
  rw [step, Inventory.delivered, hfind]
  rfl

/-- What has become of a cluster without services and of a follower that knows no target. -/
abbrev run (rules : Rules) (history : List Happening) : Watched :=
  Steps.run (step rules) {} history

end Watched

/-! ## The last registration for a namespace -/

/-- Among the events the service is the last one that registers for the namespace, with this
endpoint and with these events after it. -/
def LastRegistered (rules : Rules) (events : List (WatchEvent Service)) (ns : String)
    (service : Service) (endpoint : Url) (later : List (WatchEvent Service)) : Prop :=
  (∃ first event, events = first ++ event :: later ∧ event.announced? = some service) ∧
    rules.Registers service ns endpoint ∧
    ∀ event ∈ later, ∀ other, event.announced? = some other → ∀ url, ¬rules.Registers other ns url

section LastRegistered

variable {rules : Rules} {events later : List (WatchEvent Service)} {event : WatchEvent Service}
  {ns : String} {service : Service} {endpoint : Url}

theorem lastRegistered_concat :
    LastRegistered rules (events ++ [event]) ns service endpoint later ↔
      (later = [] ∧ event.announced? = some service ∧ rules.Registers service ns endpoint) ∨
      ∃ before, later = before ++ [event] ∧
        LastRegistered rules events ns service endpoint before ∧
        ∀ other, event.announced? = some other → ∀ url, ¬rules.Registers other ns url := by
  constructor
  · rintro ⟨⟨first, announcing, hevents, hservice⟩, hregisters, hlater⟩
    rcases later.eq_nil_or_concat with rfl | ⟨before, last, rfl⟩
    · obtain ⟨_, hsame⟩ := List.append_inj' hevents rfl
      cases hsame
      exact Or.inl ⟨rfl, hservice, hregisters⟩
    · simp only [List.concat_eq_append] at hevents hlater ⊢
      rw [← List.cons_append, ← List.append_assoc] at hevents
      obtain ⟨rfl, hsame⟩ := List.append_inj' hevents rfl
      cases hsame
      refine Or.inr ⟨before, rfl, ⟨⟨first, announcing, rfl, hservice⟩, hregisters, ?_⟩, ?_⟩
      · intro other hother
        exact hlater other (List.mem_append_left _ hother)
      · exact hlater event (List.mem_append_right _ (List.mem_singleton_self event))
  · rintro (⟨rfl, hservice, hregisters⟩ | ⟨before, rfl, hbefore, hevent⟩)
    · exact ⟨⟨events, event, rfl, hservice⟩, hregisters, by simp⟩
    · obtain ⟨⟨first, announcing, rfl, hservice⟩, hregisters, hlater⟩ := hbefore
      refine ⟨⟨first, announcing, by simp, hservice⟩, hregisters, ?_⟩
      intro later hmem
      rcases List.mem_append.mp hmem with hmem | hmem
      · exact hlater later hmem
      · rw [List.mem_singleton.mp hmem]
        exact hevent

/-- If any service registers for a namespace, then one is the last to do so. -/
theorem exists_lastRegistered (hmem : event ∈ events) (hevent : event.announced? = some service)
    (hregisters : rules.Registers service ns endpoint) :
    ∃ last url later, LastRegistered rules events ns last url later := by
  induction events using List.reverseRecOn with
  | nil => cases hmem
  | append_singleton events final ih =>
      -- When the final event does not register for the namespace, the last one before it stays so.
      by_cases hfinal : ∃ last url, final.announced? = some last ∧ rules.Registers last ns url
      · obtain ⟨last, url, hlast, hregisters⟩ := hfinal
        exact ⟨last, url, [], lastRegistered_concat.mpr (Or.inl ⟨rfl, hlast, hregisters⟩)⟩
      · rcases List.mem_append.mp hmem with hmem | hmem
        · obtain ⟨last, url, later, hlast⟩ := ih hmem
          refine ⟨last, url, later ++ [final],
            lastRegistered_concat.mpr (Or.inr ⟨later, rfl, hlast, ?_⟩)⟩
          intro other hother url hregisters
          exact hfinal ⟨other, url, hother, hregisters⟩
        · rw [List.mem_singleton.mp hmem] at hevent
          exact absurd ⟨service, endpoint, hevent, hregisters⟩ hfinal

/-- There is only one last registration for a namespace. -/
theorem LastRegistered.unique (hlast : LastRegistered rules events ns service endpoint later)
    {other : Service} {url : Url} {rest : List (WatchEvent Service)}
    (hother : LastRegistered rules events ns other url rest) :
    service = other ∧ endpoint = url ∧ later = rest := by
  induction events using List.reverseRecOn generalizing later rest with
  | nil =>
      obtain ⟨⟨first, _, hnil, _⟩, _⟩ := hlast
      cases first <;> cases hnil
  | append_singleton events final ih =>
      -- The final event registers for the namespace either for both or for neither.
      rcases lastRegistered_concat.mp hlast with
        ⟨rfl, hservice, hregisters⟩ | ⟨before, rfl, hlast, hnone⟩
      · rcases lastRegistered_concat.mp hother with
          ⟨rfl, hsame, hurl⟩ | ⟨_, _, _, hnone⟩
        · rw [hservice] at hsame
          cases hsame
          exact ⟨rfl, Option.some.inj (hregisters.1.symm.trans hurl.1), rfl⟩
        · exact absurd hregisters (hnone service hservice endpoint)
      · rcases lastRegistered_concat.mp hother with
          ⟨rfl, hsame, hurl⟩ | ⟨before, rfl, hother, _⟩
        · exact absurd hurl (hnone other hsame url)
        · obtain ⟨rfl, rfl, rfl⟩ := ih hlast hother
          exact ⟨rfl, rfl, rfl⟩

/-- A target stands if it was registered last and no service with its endpoint was deleted
later. -/
theorem standing_iff_lastRegistered {target : Target} :
    Follower.Standing rules events ns target ↔
      target.token = rules.token ∧ ∃ service later,
        LastRegistered rules events ns service target.endpoint later ∧
        ∀ removed, .deleted removed ∈ later → ¬rules.Registers removed ns target.endpoint := by
  constructor
  · rintro ⟨first, event, later, service, hevents, hservice, hregisters, htoken, hlater⟩
    refine ⟨htoken, service, later, ⟨⟨first, event, hevents, hservice⟩, hregisters, ?_⟩, ?_⟩
    · exact fun other hother => (hlater other hother).1
    · exact fun removed hremoved => (hlater _ hremoved).2 removed rfl
  · rintro ⟨htoken, service, later, ⟨⟨first, event, hevents, hservice⟩, hregisters, hlater⟩, hkept⟩
    refine ⟨first, event, later, service, hevents, hservice, hregisters, htoken, ?_⟩
    refine fun other hother => ⟨hlater other hother, ?_⟩
    rintro removed rfl
    exact hkept removed hother

/-- In a list that is told from an inventory the last registration is one of a service of it, and
nothing is deleted. -/
theorem LastRegistered.of_listed {inventory : Inventory}
    (hlast : LastRegistered rules (inventory.services.map .listed) ns service endpoint later) :
    service ∈ inventory ∧ ∀ removed, .deleted removed ∉ later := by
  obtain ⟨⟨first, event, hevents, hservice⟩, _⟩ := hlast
  have hlisted (other : WatchEvent Service) (hother : other ∈ event :: later) :
      ∃ listed ∈ inventory, .listed listed = other := by
    refine List.mem_map.mp ?_
    rw [hevents]
    exact List.mem_append_right _ hother
  constructor
  · obtain ⟨listed, hmem, rfl⟩ := hlisted event List.mem_cons_self
    cases hservice
    exact hmem
  · intro removed hremoved
    obtain ⟨_, _, hother⟩ := hlisted _ (List.mem_cons_of_mem _ hremoved)
    cases hother

end LastRegistered

end Rescan.Topology
