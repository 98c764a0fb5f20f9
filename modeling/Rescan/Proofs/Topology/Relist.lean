import Mathlib.Data.List.Induction
import Rescan.Proofs.Topology.Following

/-! # Complete lists of services

What a follower knows after a complete list comes from the events since the list began, whatever
it knew before. The target of a namespace is the last one registered for it, unless a later
deletion of a service took it back.
-/

namespace Rescan.Topology.Follower

open Rescan.Resource (WatchEvent)

variable {rules : Rules}

/-- Among the events the target is the last one registered for the namespace, and it was not taken
back after that. -/
def Standing (rules : Rules) (events : List (WatchEvent Service)) (ns : String)
    (target : Target) : Prop :=
  ∃ first event last service, events = first ++ event :: last ∧
    event.announced? = some service ∧ rules.Registers service ns target.endpoint ∧
    target.token = rules.token ∧ ∀ later ∈ last,
      (∀ other, later.announced? = some other → ∀ endpoint, ¬rules.Registers other ns endpoint) ∧
      (∀ other, later = .deleted other → ¬rules.Registers other ns target.endpoint)

theorem standing_concat {events : List (WatchEvent Service)} {event : WatchEvent Service}
    {ns : String} {target : Target} :
    Standing rules (events ++ [event]) ns target ↔
      (∃ service, event.announced? = some service ∧ rules.Registers service ns target.endpoint ∧
        target.token = rules.token) ∨
      Standing rules events ns target ∧
        (∀ other, event.announced? = some other → ∀ endpoint, ¬rules.Registers other ns endpoint) ∧
        (∀ other, event = .deleted other → ¬rules.Registers other ns target.endpoint) := by
  constructor
  · rintro ⟨first, announcing, last, service, hevents, hservice, hregisters, htoken, hlast⟩
    rcases Registry.exists_split_concat_iff.mp ⟨first, last, hevents, hlast⟩ with
      rfl | ⟨⟨first, last, rfl, hlast⟩, hevent⟩
    · exact Or.inl ⟨service, hservice, hregisters, htoken⟩
    · exact Or.inr
        ⟨⟨first, announcing, last, service, rfl, hservice, hregisters, htoken, hlast⟩, hevent⟩
  · rintro (⟨service, hservice, hregisters, htoken⟩ | ⟨hstanding, hevent⟩)
    · exact ⟨events, event, [], service, rfl, hservice, hregisters, htoken, by simp⟩
    · obtain ⟨first, announcing, last, service, hevents, hservice, hregisters, htoken, hlast⟩ :=
        hstanding
      obtain ⟨first, last, hevents, hlast⟩ :=
        Registry.exists_split_concat_iff.mpr (Or.inr ⟨⟨first, last, hevents, hlast⟩, hevent⟩)
      exact ⟨first, announcing, last, service, hevents, hservice, hregisters, htoken, hlast⟩

section Follow

variable {follower : Follower} {events : List (WatchEvent Service)} {event : WatchEvent Service}
  {service : Service} {ns : String} {target : Target}

/-- After an announced service the target that stands is looked up, if the one that stood was looked
up before or the service registers for the namespace. -/
theorem lookup_announced_iff_standing (hevent : event.announced? = some service)
    (hbefore : (∀ endpoint, ¬rules.Registers service ns endpoint) →
      (follower.registry.lookup ns = some target ↔ Standing rules events ns target)) :
    (follower.follow rules event).registry.lookup ns = some target ↔
      Standing rules (events ++ [event]) ns target := by
  have hkept : ∀ other, event ≠ .deleted other := by
    rintro other rfl
    cases hevent
  rw [lookup_follow_announced hevent, standing_concat]
  simp only [hevent, Option.some.injEq, exists_eq_left', forall_eq', hkept, false_implies,
    implies_true, and_true]
  refine or_congr_right ?_
  rw [and_comm]
  exact and_congr_left hbefore

/-- After a deletion the target that stands is looked up, if the one that stood was looked up
before. -/
theorem lookup_deleted_iff_standing
    (hbefore : follower.registry.lookup ns = some target ↔ Standing rules events ns target) :
    (follower.follow rules (.deleted service)).registry.lookup ns = some target ↔
      Standing rules (events ++ [.deleted service]) ns target := by
  rw [lookup_follow_deleted, standing_concat, hbefore]
  simp [WatchEvent.announced?]

end Follow

/-- The state in the middle of a list, of which some events have come. -/
structure Listing (rules : Rules) (follower : Follower) (events : List (WatchEvent Service))
    (seen : List String) : Prop where
  listing_eq : follower.sync.listing = some seen
  /-- Exactly the namespaces for which a service registered are noted. -/
  mem_seen : ∀ ns, ns ∈ seen ↔ ∃ event ∈ events, ∃ service endpoint,
    event.announced? = some service ∧ rules.Registers service ns endpoint
  /-- The targets of the namespaces noted do not depend on the state before. -/
  lookup_eq : ∀ ns ∈ seen, ∀ target,
    follower.registry.lookup ns = some target ↔ Standing rules events ns target

theorem listing_begins (rules : Rules) (follower : Follower) :
    Listing rules (follower.follow rules .listBegins) [] [] where
  listing_eq := rfl
  mem_seen ns := by simp
  lookup_eq ns hmem := by cases hmem

theorem Standing.exists_registers {events : List (WatchEvent Service)} {ns : String}
    {target : Target} (hstanding : Standing rules events ns target) :
    ∃ event ∈ events, ∃ service endpoint,
      event.announced? = some service ∧ rules.Registers service ns endpoint := by
  obtain ⟨first, event, last, service, rfl, hservice, hregisters, _⟩ := hstanding
  exact ⟨event, List.mem_append_right _ List.mem_cons_self, service, target.endpoint, hservice,
    hregisters⟩

section Listing

variable {follower : Follower} {events : List (WatchEvent Service)} {seen : List String}
  (hlisting : Listing rules follower events seen)

include hlisting

theorem Listing.announced {event : WatchEvent Service} {service : Service}
    (hevent : event.announced? = some service) :
    ∃ seen, Listing rules (follower.follow rules event) (events ++ [event]) seen := by
  obtain ⟨noted, hnoted, hmem⟩ := listing_follow_announced rules hevent hlisting.listing_eq
  refine ⟨seen ++ noted, hnoted, fun ns => ?_, fun ns hns target => ?_⟩
  · rw [List.mem_append, hlisting.mem_seen, hmem]
    simp [or_and_right, exists_or, hevent]
  · -- A namespace that was not noted before is noted for this service, which registers for it.
    refine lookup_announced_iff_standing hevent fun hnone => ?_
    rcases List.mem_append.mp hns with hns | hns
    · exact hlisting.lookup_eq ns hns target
    · obtain ⟨endpoint, hregisters⟩ := (hmem ns).mp hns
      exact absurd hregisters (hnone endpoint)

theorem Listing.deleted (service : Service) :
    Listing rules (follower.follow rules (.deleted service)) (events ++ [.deleted service])
      seen := by
  refine ⟨hlisting.listing_eq, fun ns => ?_, fun ns hns target => ?_⟩
  · rw [hlisting.mem_seen]
    simp [WatchEvent.announced?]
  · exact lookup_deleted_iff_standing (hlisting.lookup_eq ns hns target)

end Listing

/-- The events of a complete list, with what else happens while it is read. -/
def relist (events : List (WatchEvent Service)) : List (WatchEvent Service) :=
  .listBegins :: events ++ [.listEnds]

section Relist

variable (rules) (follower : Follower) {events : List (WatchEvent Service)}
  (hevents : ∀ event ∈ events, event ≠ .listBegins ∧ event ≠ .listEnds)

include hevents

theorem listing_run : ∃ seen, Listing rules (follower.run rules (.listBegins :: events)) events
    seen := by
  induction events using List.reverseRecOn with
  | nil => exact ⟨[], listing_begins rules follower⟩
  | append_singleton events event ih =>
      obtain ⟨seen, hlisting⟩ := ih fun other hother =>
        hevents other (List.mem_append_left _ hother)
      obtain ⟨hbegins, hends⟩ :=
        hevents event (List.mem_append_right _ (List.mem_singleton_self event))
      rw [← List.cons_append, run, Steps.run_concat]
      cases event with
      | listBegins => exact absurd rfl hbegins
      | listed service => exact hlisting.announced rfl
      | listEnds => exact absurd rfl hends
      | applied service => exact hlisting.announced rfl
      | deleted service => exact ⟨seen, hlisting.deleted service⟩

theorem lookup_relist (ns : String) (target : Target) :
    (follower.run rules (relist events)).registry.lookup ns = some target ↔
      Standing rules events ns target := by
  obtain ⟨seen, hlisting⟩ := listing_run rules follower hevents
  rw [relist, run, Steps.run_concat, lookup_follow_listEnds hlisting.listing_eq]
  constructor
  · rintro ⟨hns, hlookup⟩
    exact (hlisting.lookup_eq ns hns target).mp hlookup
  · intro hstanding
    have hns := (hlisting.mem_seen ns).mpr hstanding.exists_registers
    exact ⟨hns, (hlisting.lookup_eq ns hns target).mpr hstanding⟩

theorem sync_relist : (follower.run rules (relist events)).sync = {} := by
  obtain ⟨seen, hlisting⟩ := listing_run rules follower hevents
  rw [relist, run, Steps.run_concat]
  simp only [follow, Sync.handle, hlisting.listing_eq]

end Relist

/-- Take two followers with any targets and any lists that they were reading. After the same
complete list they are in the same state: the target of a namespace is the last one that was
registered for it since the list began and that was not taken back after that. Until the list is
complete a target is taken away only by a deletion of a service with its endpoint. -/
theorem relist_erases_history (rules : Rules) (first second : Follower)
    (events : List (WatchEvent Service))
    (hevents : ∀ event ∈ events, event ≠ .listBegins ∧ event ≠ .listEnds) :
    first.run rules (relist events) = second.run rules (relist events) ∧
    (∀ ns, ns ∈ (first.run rules (relist events)).registry.namespaces ↔
      ∃ target, Standing rules events ns target) ∧
    (∀ ns target, (first.run rules (relist events)).registry.lookup ns = some target ↔
      Standing rules events ns target) ∧
    (∀ part event, part ++ [event] <+: .listBegins :: events → ∀ ns target,
      (first.run rules part).registry.lookup ns = some target →
      (first.run rules (part ++ [event])).registry.lookup ns = none →
      ∃ service, event = .deleted service ∧ rules.Registers service ns target.endpoint) := by
  refine ⟨?_, fun ns => ?_, lookup_relist rules first hevents, ?_⟩
  · apply Follower.ext
    · rw [sync_relist rules first hevents, sync_relist rules second hevents]
    · apply Registry.ext_lookup
      intro ns
      ext target
      rw [lookup_relist rules first hevents, lookup_relist rules second hevents]
  · rw [Registry.mem_namespaces_iff, Option.isSome_iff_exists]
    exact exists_congr (lookup_relist rules first hevents ns)
  · intro part event hpart ns target hbefore hafter
    rw [run, Steps.run_concat] at hafter
    refine deleted_of_lost ?_ hbefore hafter
    rintro rfl
    have hmem := hpart.subset (List.mem_append_right _ (List.mem_singleton_self _))
    rcases List.mem_cons.mp hmem with hsame | hmem
    · cases hsame
    · exact (hevents _ hmem).2 rfl

/-- A follower that knows a target and was reading a list. -/
def stale : Follower where
  sync := ⟨some ["ns-b"]⟩
  registry := Registry.empty.put "ns-b" ⟨{ scheme := "http", path := .segments [] }, none⟩

/-- Events in which a service gives way to another one. -/
def succession : List (WatchEvent Service) :=
  [.listed (scanner "old"), .deleted (scanner "old"), .applied (scanner "new")]

/-- After the list the follower knows the second service only. On the way the target of the first
one is taken away. -/
theorem relist_erases_history_succession :
    (∀ event ∈ succession, event ≠ .listBegins ∧ event ≠ .listEnds) ∧
    stale.run {} (relist succession) = run {} ⟨{}, .empty⟩ (relist succession) ∧
    Standing {} succession "ns-a" (scannerTarget "new") ∧
    ∃ service, .deleted (scanner "old") = WatchEvent.deleted service ∧
      Rules.Registers {} service "ns-a" (scannerTarget "old").endpoint := by
  have hevents : ∀ event ∈ succession, event ≠ .listBegins ∧ event ≠ .listEnds := by
    decide
  have hstands : (stale.run {} (relist succession)).registry.lookup "ns-a" =
      some (scannerTarget "new") := by
    decide +kernel
  have hbefore : (stale.run {} [.listBegins, .listed (scanner "old")]).registry.lookup "ns-a" =
      some (scannerTarget "old") := by
    decide +kernel
  have hafter : (stale.run {} [.listBegins, .listed (scanner "old"),
      .deleted (scanner "old")]).registry.lookup "ns-a" = none := by
    decide +kernel
  obtain ⟨hsame, _, hlookup, hlost⟩ :=
    relist_erases_history {} stale ⟨{}, .empty⟩ succession hevents
  exact ⟨hevents, hsame, (hlookup "ns-a" _).mp hstands,
    hlost _ _ ⟨[.applied (scanner "new")], rfl⟩ "ns-a" _ hbefore hafter⟩

end Rescan.Topology.Follower
