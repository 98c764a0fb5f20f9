import Rescan.Proofs.Topology.Following

/-! # Namespaces on their own

What a follower knows of one namespace is its target and, while a list is read, whether the
namespace was noted. Lists apart, both change only by the services that register for the namespace.
So namespaces do not interfere with each other, and the scope of the cluster goes with the chosen
namespace.
-/

namespace Rescan

namespace Resource.WatchEvent

/-- The object that an event is about. -/
def subject? {α : Type} : WatchEvent α → Option α
  | .listed object | .applied object | .deleted object => some object
  | .listBegins | .listEnds => none

end Resource.WatchEvent

namespace Topology

open Rescan.Resource (WatchEvent)

/-- The endpoint that a service registers for a namespace. -/
def Rules.endpointFor? (rules : Rules) (service : Service) (ns : String) : Option Url :=
  (rules.registration? service).bind fun (namespaces, endpoint) =>
    if ns ∈ namespaces then some endpoint else none

section Endpoint

variable {rules : Rules} {service : Service} {ns : String}

theorem Rules.endpointFor?_eq_some_iff {endpoint : Url} :
    rules.endpointFor? service ns = some endpoint ↔ rules.Registers service ns endpoint := by
  rw [registers_iff, endpointFor?]
  cases rules.registration? service with
  | none => simp
  | some registration =>
      obtain ⟨namespaces, found⟩ := registration
      by_cases hmem : ns ∈ namespaces <;> simp [hmem]

theorem Rules.endpointFor?_eq_none_iff :
    rules.endpointFor? service ns = none ↔ ∀ endpoint, ¬rules.Registers service ns endpoint := by
  simp only [Option.eq_none_iff_forall_ne_some, ne_eq, endpointFor?_eq_some_iff]

/-- The services that register for a namespace are those in it, and for the scope of the cluster
those in the chosen namespace. -/
theorem Rules.endpointFor?_eq_none (hns : service.metadata.ns ≠ some ns)
    (hscope : ns = "" → ∀ scope, rules.clusterScope = some scope →
      service.metadata.ns ≠ some scope) :
    rules.endpointFor? service ns = none := by
  rw [endpointFor?_eq_none_iff]
  rintro endpoint ⟨-, hhome | ⟨hempty, scope, hchosen, hhome⟩⟩
  · exact hns hhome
  · exact hscope hempty scope hchosen hhome

/-- A service registers for the scope of the cluster just what it registers for the chosen
namespace. -/
theorem Rules.endpointFor?_clusterScope {scope : String} (hchosen : rules.clusterScope = some scope)
    (hscope : scope ≠ "") (hservice : service.metadata.ns ≠ some "") :
    rules.endpointFor? service "" = rules.endpointFor? service scope := by
  ext endpoint
  simp [endpointFor?_eq_some_iff, Registers, hchosen, hscope, hservice]

end Endpoint

/-! ## The view of a namespace -/

/-- What is known of one namespace. -/
@[ext] structure View where
  target : Option Target
  /-- Whether the namespace was noted, while a list is read. -/
  noted : Option Bool

/-- What is known of a namespace once a service is announced. -/
def View.register (rules : Rules) (ns : String) (view : View) (service : Service) : View :=
  match rules.endpointFor? service ns with
  | some endpoint => ⟨some ⟨endpoint, rules.token⟩, view.noted.map fun _ => true⟩
  | none => view

/-- What is known of a namespace once a service is gone. -/
def View.withdraw (rules : Rules) (ns : String) (view : View) (service : Service) : View :=
  match rules.endpointFor? service ns with
  | some endpoint => { view with target := view.target.filter (·.endpoint != endpoint) }
  | none => view

/-- What is known of a namespace after an event. -/
def View.follow (rules : Rules) (ns : String) (view : View) : WatchEvent Service → View
  | .listBegins => { view with noted := some false }
  | .listed service | .applied service => view.register rules ns service
  | .listEnds =>
    match view.noted with
    | some noted => ⟨if noted then view.target else none, none⟩
    | none => view
  | .deleted service => view.withdraw rules ns service

section Event

variable {rules : Rules} {ns : String} {event : WatchEvent Service}

/-- Two namespaces for which a service registers the same are treated alike. -/
theorem View.follow_congr {other : String}
    (hsame : ∀ service, event.subject? = some service →
      rules.endpointFor? service ns = rules.endpointFor? service other) (view : View) :
    view.follow rules ns event = view.follow rules other event := by
  cases event with
  | listBegins | listEnds => rfl
  | listed service | applied service => simp only [follow, register, hsame service rfl]
  | deleted service => simp only [follow, withdraw, hsame service rfl]

/-- A service that does not register for a namespace changes nothing of what is known of it. -/
theorem View.follow_of_endpointFor?_eq_none {service : Service}
    (hsubject : event.subject? = some service) (hnone : rules.endpointFor? service ns = none)
    (view : View) : view.follow rules ns event = view := by
  cases event with
  | listBegins | listEnds => cases hsubject
  | listed other | applied other =>
      cases hsubject
      simp only [follow, register, hnone]
  | deleted other =>
      cases hsubject
      simp only [follow, withdraw, hnone]

/-- A target stays as it is until a service registers for the namespace, or the end of a list drops
it. -/
theorem View.target_follow_cases
    (hnone : ∀ service, event.subject? = some service → rules.endpointFor? service ns = none)
    (view : View) :
    (view.follow rules ns event).target = view.target ∨
      event = .listEnds ∧ (view.follow rules ns event).target = none := by
  cases event with
  | listBegins => exact Or.inl rfl
  | listEnds =>
      obtain ⟨target, noted⟩ := view
      rcases noted with _ | _ | _
      · exact Or.inl rfl
      · exact Or.inr ⟨rfl, rfl⟩
      · exact Or.inl rfl
  | listed service | applied service | deleted service =>
      left
      rw [follow_of_endpointFor?_eq_none rfl (hnone service rfl)]

end Event

namespace Follower

/-- What a follower knows of a namespace. -/
def view (follower : Follower) (ns : String) : View :=
  ⟨follower.registry.lookup ns, follower.sync.listing.map (·.contains ns)⟩

section Follow

variable (rules : Rules) (follower : Follower) (ns : String)

/-- An announced service replaces the target of a namespace for which it registers, and notes the
namespace while a list is read. -/
theorem view_follow_announced {event : WatchEvent Service} {service : Service}
    (hevent : event.announced? = some service) :
    (follower.follow rules event).view ns = (follower.view ns).register rules ns service := by
  obtain ⟨noted, hnoted, hmem⟩ := exists_noted_of_announced rules follower hevent
  unfold View.register
  cases hendpoint : rules.endpointFor? service ns with
  | none =>
      have hnot := Rules.endpointFor?_eq_none_iff.mp hendpoint
      refine View.ext (Option.ext fun target => ?_) ?_
      · rw [view, lookup_follow_announced hevent]
        simp [hnot, view]
      · have hns : ns ∉ noted := by simp [hmem, hnot]
        simp only [view, hnoted, Option.map_map]
        congr 1
        funext seen
        simp [hns]
  | some endpoint =>
      have hregisters := Rules.endpointFor?_eq_some_iff.mp hendpoint
      have hreplaced : ¬∀ other, ¬rules.Registers service ns other := fun hnot =>
        hnot endpoint hregisters
      refine View.ext (Option.ext fun target => ?_) ?_
      · obtain ⟨found, token⟩ := target
        rw [view, lookup_follow_announced hevent, ← Rules.endpointFor?_eq_some_iff, hendpoint]
        simp only [hreplaced, false_and, or_false, Option.some.injEq, Target.mk.injEq]
        exact and_congr_right' eq_comm
      · have hns : ns ∈ noted := (hmem ns).mpr ⟨endpoint, hregisters⟩
        simp only [view, hnoted, Option.map_map]
        congr 1
        funext seen
        simp [hns]

/-- What a follower knows of a namespace after an event comes from the event and from what it knew
of just this namespace before. -/
theorem view_follow (event : WatchEvent Service) :
    (follower.follow rules event).view ns = (follower.view ns).follow rules ns event := by
  cases event with
  | listBegins => rfl
  | listed service => exact view_follow_announced rules follower ns rfl
  | applied service => exact view_follow_announced rules follower ns rfl
  | listEnds =>
      cases hlisting : follower.sync.listing with
      | none => simp [view, follow, Sync.handle, View.follow, hlisting]
      | some seen => simp [view, follow, Sync.handle, View.follow, hlisting, Registry.apply]
  | deleted service =>
      simp only [View.follow, View.withdraw]
      cases hendpoint : rules.endpointFor? service ns with
      | none =>
          refine View.ext (Option.ext fun target => ?_) rfl
          have hnot := Rules.endpointFor?_eq_none_iff.mp hendpoint
          exact lookup_follow_deleted.trans (and_iff_left (hnot target.endpoint))
      | some endpoint =>
          refine View.ext (Option.ext fun target => ?_) rfl
          rw [Option.filter_eq_some_iff]
          refine lookup_follow_deleted.trans (and_congr_right fun _ => ?_)
          rw [← Rules.endpointFor?_eq_some_iff, hendpoint, Option.some.injEq, bne_iff_ne, ne_comm]

/-- The target of a namespace stays until a service registers for it, or the end of a list drops
it. -/
theorem lookup_follow_cases {rules : Rules} (follower : Follower) {ns : String}
    {event : WatchEvent Service}
    (hnone : ∀ service, event.subject? = some service → rules.endpointFor? service ns = none) :
    (follower.follow rules event).registry.lookup ns = follower.registry.lookup ns ∨
      event = .listEnds ∧ (follower.follow rules event).registry.lookup ns = none := by
  have hview := congrArg View.target (view_follow rules follower ns event)
  refine (View.target_follow_cases hnone (follower.view ns)).imp hview.trans ?_
  exact And.imp_right hview.trans

theorem view_run (events : List (WatchEvent Service)) :
    (follower.run rules events).view ns =
      events.foldl (View.follow rules ns) (follower.view ns) :=
  (List.foldl_hom (view · ns) fun other event => (view_follow rules other ns event).symm).symm

end Follow

/-! ## The scope of the cluster -/

section Scope

variable {rules : Rules} {events : List (WatchEvent Service)}
  (hevents : ∀ event ∈ events, ∀ service, event.subject? = some service →
    service.metadata.ns ≠ some "")

include hevents

/-- The scope of the cluster and the chosen namespace go on alike once they are alike. -/
theorem view_run_clusterScope {scope : String} (hchosen : rules.clusterScope = some scope)
    (hscope : scope ≠ "") {follower : Follower} (hview : follower.view "" = follower.view scope) :
    (follower.run rules events).view "" = (follower.run rules events).view scope := by
  rw [view_run, view_run, hview]
  apply List.foldl_ext
  intro view event hevent
  refine view.follow_congr fun service hsubject => ?_
  exact Rules.endpointFor?_clusterScope hchosen hscope (hevents event hevent service hsubject)

/-- Without a chosen namespace the scope of the cluster never gets a target. -/
theorem lookup_run_of_no_clusterScope
    (hnone : ∀ scope, rules.clusterScope = some scope → scope = "")
    {follower : Follower} (hlookup : follower.registry.lookup "" = none) :
    (follower.run rules events).registry.lookup "" = none := by
  induction events generalizing follower with
  | nil => exact hlookup
  | cons event events ih =>
      refine ih (fun other hother => hevents other (List.mem_cons_of_mem _ hother)) ?_
      have hservices (service : Service) (hsubject : event.subject? = some service) :
          rules.endpointFor? service "" = none := by
        have hhome := hevents event List.mem_cons_self service hsubject
        refine Rules.endpointFor?_eq_none hhome fun _ scope hchosen => ?_
        rwa [hnone scope hchosen]
      rcases lookup_follow_cases follower hservices with hkept | ⟨_, hdropped⟩
      · exact hkept.trans hlookup
      · exact hdropped

/-- Take any events about services that are in some namespace, from the empty registry on. If a
namespace is chosen for the scope of the cluster, the two have the same target or both have none,
whatever the events were. If none is chosen, or the empty one, the scope of the cluster has no
target. An event about a service outside the chosen namespace never changes the target of the scope
of the cluster, nor does the beginning of a list; the end of a list may drop it, and then it drops
the one of the chosen namespace with it. -/
theorem cluster_scope_follows_namespace :
    let follower := run rules ⟨{}, .empty⟩ events
    (∀ scope, rules.clusterScope = some scope → scope ≠ "" →
      follower.registry.lookup "" = follower.registry.lookup scope) ∧
    ((∀ scope, rules.clusterScope = some scope → scope = "") →
      follower.registry.lookup "" = none) ∧
    ∀ event : WatchEvent Service,
      (∀ service, event.subject? = some service → service.metadata.ns ≠ some "" ∧
        ∀ scope, rules.clusterScope = some scope → service.metadata.ns ≠ some scope) →
      (follower.follow rules event).registry.lookup "" = follower.registry.lookup "" ∨
      event = .listEnds ∧ (follower.follow rules event).registry.lookup "" = none ∧
        ∀ scope, rules.clusterScope = some scope →
          (follower.follow rules event).registry.lookup scope = none := by
  intro follower
  have hview (scope : String) (hchosen : rules.clusterScope = some scope) (hscope : scope ≠ "") :
      follower.view "" = follower.view scope :=
    view_run_clusterScope hevents hchosen hscope rfl
  refine ⟨fun scope hchosen hscope => congrArg View.target (hview scope hchosen hscope),
    fun hnone => lookup_run_of_no_clusterScope hevents hnone rfl, fun event houtside => ?_⟩
  have hservices (service : Service) (hsubject : event.subject? = some service) :
      rules.endpointFor? service "" = none :=
    Rules.endpointFor?_eq_none (houtside service hsubject).1 fun _ =>
      (houtside service hsubject).2
  refine (lookup_follow_cases follower hservices).imp_right fun ⟨hends, hdropped⟩ => ?_
  refine ⟨hends, hdropped, fun scope hchosen => ?_⟩
  by_cases hscope : scope = ""
  · rw [hscope, hdropped]
  · -- The end of a list is no event about a service, so that the two go on alike.
    have hlast : ∀ last ∈ [event], ∀ service, last.subject? = some service →
        service.metadata.ns ≠ some "" := by
      rw [hends]
      simp [WatchEvent.subject?]
    have hsame := view_run_clusterScope hlast hchosen hscope (hview scope hchosen hscope)
    exact (congrArg View.target hsame).symm.trans hdropped

end Scope

/-- A namespace is chosen for the scope of the cluster. -/
def chosenRules : Rules := { clusterScope := some "ns-a", token := some "secret" }

/-- A service of another namespace. -/
def neighbour : Service := ⟨⟨"ns-b", "scan", none⟩, some [80]⟩

/-- A service of the chosen namespace is listed and replaced, and a list without it is broken
off. -/
def brokenOff : List (WatchEvent Service) :=
  [.listBegins, .listed (scanner "old"), .listed neighbour, .listEnds, .applied (scanner "new"),
    .deleted (scanner "old"), .listBegins, .deleted neighbour]

/-- The scope of the cluster has the target of the service that came later. The end of the list that
was broken off drops it. -/
theorem cluster_scope_follows_namespace_replaced :
    (∀ event ∈ brokenOff, ∀ service, event.subject? = some service →
      service.metadata.ns ≠ some "") ∧
    (run chosenRules ⟨{}, .empty⟩ brokenOff).registry.lookup "" =
      some { scannerTarget "new" with token := some "secret" } ∧
    (run chosenRules ⟨{}, .empty⟩ brokenOff).registry.lookup "" =
      (run chosenRules ⟨{}, .empty⟩ brokenOff).registry.lookup "ns-a" ∧
    ((run chosenRules ⟨{}, .empty⟩ brokenOff).follow chosenRules .listEnds).registry.lookup "ns-a" =
      none := by
  have hevents : ∀ event ∈ brokenOff, ∀ service, event.subject? = some service →
      service.metadata.ns ≠ some "" := by
    simp [brokenOff, WatchEvent.subject?, scanner, neighbour]
  obtain ⟨hmirror, _, houtside⟩ := @cluster_scope_follows_namespace chosenRules brokenOff hevents
  have hlookup : (run chosenRules ⟨{}, .empty⟩ brokenOff).registry.lookup "" =
      some { scannerTarget "new" with token := some "secret" } := by decide +kernel
  refine ⟨hevents, hlookup, hmirror "ns-a" rfl (by decide), ?_⟩
  rcases houtside .listEnds nofun with hkept | ⟨_, _, hdropped⟩
  · exact absurd (hkept.trans hlookup) (by decide +kernel)
  · exact hdropped "ns-a" rfl

/-! ## Namespaces do not interfere -/

/-- The events that concern a namespace: where lists begin and end, and what happens to the services
in the namespace. -/
def within (ns : String) (events : List (WatchEvent Service)) : List (WatchEvent Service) :=
  events.filter fun event => event.subject?.all fun service => service.metadata.ns == some ns

/-- The namespace whose services register for a namespace. -/
def home (rules : Rules) (ns : String) : String :=
  if ns = "" then rules.clusterScope.getD "" else ns

theorem endpointFor?_eq_none_of_home {rules : Rules} {service : Service} {ns : String}
    (hservice : service.metadata.ns ≠ some "")
    (hhome : service.metadata.ns ≠ some (home rules ns)) :
    rules.endpointFor? service ns = none := by
  unfold home at hhome
  split at hhome
  next hns =>
    subst hns
    refine Rules.endpointFor?_eq_none hservice fun _ scope hchosen => ?_
    rwa [hchosen] at hhome
  next hns => exact Rules.endpointFor?_eq_none hhome fun hempty => absurd hempty hns

/-- What a follower knows of a namespace comes from the events that concern its home. -/
theorem view_run_within {rules : Rules} {events : List (WatchEvent Service)}
    (hevents : ∀ event ∈ events, ∀ service, event.subject? = some service →
      service.metadata.ns ≠ some "")
    (follower : Follower) (ns : String) :
    (follower.run rules events).view ns =
      (follower.run rules (within (home rules ns) events)).view ns := by
  rw [view_run, view_run, within, List.foldl_filter]
  apply List.foldl_ext
  intro view event hevent
  split
  · rfl
  next hother =>
    cases hsubject : event.subject? with
    | none => simp [hsubject] at hother
    | some service =>
        refine View.follow_of_endpointFor?_eq_none hsubject ?_ view
        refine endpointFor?_eq_none_of_home (hevents event hevent service hsubject) fun hhome => ?_
        simp [hsubject, hhome] at hother

/-- Take two sequences of events about services that are in some namespace, such that every
namespace sees the same events in both in the same order, apart from events of other namespaces
in between. From the same registry they lead to the same registry. An event about a service changes
the targets of its own namespace alone, and of the scope of the cluster if that namespace is the
chosen one. -/
theorem namespaces_do_not_interfere (rules : Rules) (registry : Registry)
    {first second : List (WatchEvent Service)}
    (hfirst : ∀ event ∈ first, ∀ service, event.subject? = some service →
      service.metadata.ns ≠ some "")
    (hsecond : ∀ event ∈ second, ∀ service, event.subject? = some service →
      service.metadata.ns ≠ some "")
    (hsame : ∀ ns, within ns first = within ns second) :
    (run rules ⟨{}, registry⟩ first).registry = (run rules ⟨{}, registry⟩ second).registry ∧
    ∀ (follower : Follower) event service ns, event.subject? = some service →
      service.metadata.ns ≠ some ns →
      (ns = "" → ∀ scope, rules.clusterScope = some scope → service.metadata.ns ≠ some scope) →
      (follower.follow rules event).registry.lookup ns = follower.registry.lookup ns := by
  refine ⟨Registry.ext_lookup fun ns => ?_, fun follower event service ns hsubject hns hscope => ?_⟩
  · have hview : (run rules ⟨{}, registry⟩ first).view ns =
        (run rules ⟨{}, registry⟩ second).view ns := by
      rw [view_run_within hfirst, view_run_within hsecond, hsame]
    exact congrArg View.target hview
  · have hview := view_follow rules follower ns event
    have hnone := Rules.endpointFor?_eq_none hns hscope
    rw [View.follow_of_endpointFor?_eq_none hsubject hnone] at hview
    exact congrArg View.target hview

/-- Services of two namespaces are listed, and one of them is removed. -/
def alternating : List (WatchEvent Service) :=
  [.listBegins, .listed (scanner "old"), .listed neighbour, .deleted neighbour,
    .applied (scanner "new"), .listEnds]

/-- The same happens in another order. -/
def oneAfterTheOther : List (WatchEvent Service) :=
  [.listBegins, .listed neighbour, .deleted neighbour, .listed (scanner "old"),
    .applied (scanner "new"), .listEnds]

/-- Both orders leave the same registry, and the neighbour never touches the other namespace. -/
theorem namespaces_do_not_interfere_reordered :
    (∀ event ∈ alternating, ∀ service, event.subject? = some service →
      service.metadata.ns ≠ some "") ∧
    (∀ event ∈ oneAfterTheOther, ∀ service, event.subject? = some service →
      service.metadata.ns ≠ some "") ∧
    (∀ ns, within ns alternating = within ns oneAfterTheOther) ∧
    (run chosenRules ⟨{}, .empty⟩ alternating).registry =
      (run chosenRules ⟨{}, .empty⟩ oneAfterTheOther).registry ∧
    ((run chosenRules ⟨{}, .empty⟩ alternating).follow chosenRules
      (.deleted neighbour)).registry.lookup "" =
      (run chosenRules ⟨{}, .empty⟩ alternating).registry.lookup "" := by
  have hfirst : ∀ event ∈ alternating, ∀ service, event.subject? = some service →
      service.metadata.ns ≠ some "" := by
    simp [alternating, WatchEvent.subject?, scanner, neighbour]
  have hsecond : ∀ event ∈ oneAfterTheOther, ∀ service, event.subject? = some service →
      service.metadata.ns ≠ some "" := by
    simp [oneAfterTheOther, WatchEvent.subject?, scanner, neighbour]
  have hsame : ∀ ns, within ns alternating = within ns oneAfterTheOther := by
    intro ns
    by_cases ha : ns = "ns-a"
    · subst ha
      decide +kernel
    · simp [within, alternating, oneAfterTheOther, List.filter_cons, WatchEvent.subject?, scanner,
        Ne.symm ha]
  obtain ⟨hregistry, halone⟩ :=
    namespaces_do_not_interfere chosenRules Registry.empty hfirst hsecond hsame
  exact ⟨hfirst, hsecond, hsame, hregistry, halone _ _ neighbour "" rfl (by decide) (by decide)⟩

end Follower

end Topology

end Rescan
