import Rescan.Proofs.Debounce.Change
import Rescan.Proofs.Debounce.Handing
import Rescan.Proofs.Topology.Following

/-! # Where requests go

The registry of a debouncer is filled by the events of services alone, and everything may happen
between two edits of an event. Every target in it then stems from a service that registers it for
its namespace, and so does every target that a request goes to.
-/

namespace Rescan.Topology

open Rescan.Debounce (Debouncer Dispatch)
open Rescan.Resource (WatchEvent)
open Rescan.Telemetry (Meter)

/-- A debouncer whose registry follows the services. -/
structure Feed where
  debouncer : Debouncer
  sync : Sync := {}
  /-- The edits that are still to be made, in order. -/
  edits : List Registry.Edit := []

namespace Feed

/-- One step of a debouncer that follows the services. -/
inductive Move where
  /-- An event comes, maybe before all edits of earlier ones are made. -/
  | event (event : WatchEvent Service)
  /-- The next edit is made. -/
  | edit
  /-- The debouncer makes a move that is no edit. -/
  | other (move : Debounce.Move) (hmove : ∀ change, move ≠ .edit change := by simp)

/-- A feed before any event. -/
def new (settings : Settings.Debouncer) (meter : Meter) : Feed where
  debouncer := .new settings .empty meter

/-- The feed after a move. -/
def step (rules : Rules) (feed : Feed) : Move → Feed
  | .event event =>
    let (sync, edits) := feed.sync.handle rules event
    { feed with sync, edits := feed.edits ++ edits }
  | .edit =>
    match feed.edits with
    | [] => feed
    | change :: edits => { feed with debouncer := feed.debouncer.step (.edit change), edits }
  | .other move _ => { feed with debouncer := feed.debouncer.step move }

/-- The feed after a sequence of moves. -/
abbrev run (rules : Rules) (feed : Feed) (moves : List Move) : Feed :=
  Steps.run (step rules) feed moves

/-- The services that the events of some moves report to be there. -/
def announced (moves : List Move) : List Service :=
  moves.filterMap fun
    | .event event => event.announced?
    | .edit | .other _ _ => none

/-- What a move hands to the dispatcher. -/
def handed (feed : Feed) : Move → List (Dispatch × Target × Delivery.Request)
  | .event _ | .edit => []
  | .other move _ => feed.debouncer.handed move

/-! ## The origin of targets -/

/-- One of the services registers the target for the namespace. -/
def Warranted (rules : Rules) (services : List Service) (ns : String) (target : Target) : Prop :=
  ∃ service ∈ services, rules.Registers service ns target.endpoint ∧ target.token = rules.token

theorem Warranted.append {rules : Rules} {services : List Service} {ns : String} {target : Target}
    (hwarranted : Warranted rules services ns target) (more : List Service) :
    Warranted rules (services ++ more) ns target := by
  obtain ⟨service, hmem, hregisters⟩ := hwarranted
  exact ⟨service, List.mem_append_left _ hmem, hregisters⟩

/-- Every target in the registry is warranted, and so is every target that is to be put there. -/
structure Traced (rules : Rules) (services : List Service) (feed : Feed) : Prop where
  registered : ∀ ns target, feed.debouncer.registry.lookup ns = some target →
    Warranted rules services ns target
  awaited : ∀ ns target, .put ns target ∈ feed.edits → Warranted rules services ns target

/-- Only an announced service makes an event put a target into the registry. -/
theorem warranted_of_put_mem_handle {rules : Rules} {sync : Sync} {event : WatchEvent Service}
    {ns : String} {target : Target} (hput : .put ns target ∈ (sync.handle rules event).2) :
    Warranted rules event.announced?.toList ns target := by
  have hregister (service : Service)
      (hput : .put ns target ∈ (sync.register rules service).2) :
      Warranted rules [service] ns target := by
    cases hregistration : rules.registration? service with
    | none => simp [Sync.register, hregistration] at hput
    | some registration =>
        obtain ⟨namespaces, endpoint⟩ := registration
        simp only [Sync.register, hregistration, List.mem_map, Registry.Edit.put.injEq] at hput
        obtain ⟨_, hmem, rfl, rfl⟩ := hput
        exact ⟨service, List.mem_singleton_self service,
          (Rules.registers_iff_mem hregistration _ _).mpr ⟨hmem, rfl⟩, rfl⟩
  cases event with
  | listBegins => cases hput
  | listed service => exact hregister service hput
  | listEnds =>
      simp only [Sync.handle] at hput
      split at hput
      · simp at hput
      · cases hput
  | applied service => exact hregister service hput
  | deleted service =>
      simp only [Sync.handle, Sync.withdraw] at hput
      split at hput <;> simp at hput

theorem Traced.step {rules : Rules} {services : List Service} {feed : Feed}
    (htraced : Traced rules services feed) (move : Move) :
    Traced rules (services ++ announced [move]) (feed.step rules move) := by
  cases move with
  | event event =>
      have hannounced : announced [.event event] = event.announced?.toList := by
        cases h : event.announced? <;> simp [announced, h]
      refine ⟨fun ns target hlookup => (htraced.registered ns target hlookup).append _, ?_⟩
      intro ns target hput
      rcases List.mem_append.mp hput with hput | hput
      · exact (htraced.awaited ns target hput).append _
      · obtain ⟨service, hmem, hregisters⟩ := warranted_of_put_mem_handle hput
        exact ⟨service, List.mem_append_right _ (hannounced ▸ hmem), hregisters⟩
  | edit =>
      rw [announced, List.filterMap_cons_none rfl, List.filterMap_nil, List.append_nil, Feed.step]
      split
      · exact htraced
      next change edits hedits =>
        refine ⟨fun ns target hlookup => ?_, fun ns target hput => ?_⟩
        · rcases Registry.lookup_apply_iff.mp hlookup with rfl | ⟨hlookup, -⟩
          · exact htraced.awaited ns target (hedits ▸ List.mem_cons_self)
          · exact htraced.registered ns target hlookup
        · exact htraced.awaited ns target (hedits ▸ List.mem_cons_of_mem _ hput)
  | other move hmove =>
      rw [announced, List.filterMap_cons_none rfl, List.filterMap_nil, List.append_nil, Feed.step]
      refine ⟨fun ns target hlookup => ?_, htraced.awaited⟩
      rw [feed.debouncer.step_registry hmove] at hlookup
      exact htraced.registered ns target hlookup

theorem Traced.run {rules : Rules} {services : List Service} {feed : Feed}
    (htraced : Traced rules services feed) (moves : List Move) :
    Traced rules (services ++ announced moves) (feed.run rules moves) := by
  induction moves generalizing services feed with
  | nil => rwa [announced, List.filterMap_nil, List.append_nil]
  | cons move moves ih =>
      have hrest := ih (htraced.step move)
      rwa [List.append_assoc, announced, announced, ← List.filterMap_append] at hrest

theorem new_traced (rules : Rules) (settings : Settings.Debouncer) (meter : Meter) :
    Traced rules [] (new settings meter) where
  registered ns target hlookup := by simp [new, Debouncer.new] at hlookup
  awaited ns target hput := by cases hput

/-- Take a debouncer whose registry is empty at first and is filled by the events of services
alone, which may come in any order. Whenever a request for a key is handed over with a target, a
service was announced before that registers the target: the endpoint is that of the service, the
token is the configured one, and the service is in the namespace of the key, or in the chosen one
if the key has no namespace. The request names the key. -/
theorem requests_stay_in_namespace (rules : Rules) (settings : Settings.Debouncer) (meter : Meter)
    (moves : List Move) (move : Move) (dispatch : Dispatch) (target : Target)
    (request : Delivery.Request)
    (hhanded : (dispatch, target, request) ∈ ((new settings meter).run rules moves).handed move) :
    (∃ service ∈ announced moves,
      service.endpoint? rules.port = some target.endpoint ∧ target.token = rules.token ∧
      (service.metadata.ns = some dispatch.key.ns ∨ dispatch.key.ns = "" ∧
        ∃ scope, rules.clusterScope = some scope ∧ service.metadata.ns = some scope)) ∧
    request.kind = dispatch.key.kind ∧ request.ns = dispatch.key.ns ∧
    request.name = dispatch.key.name ∧ request.resourceKey = dispatch.key.render := by
  have htraced := (new_traced rules settings meter).run moves
  cases move with
  | event event => cases hhanded
  | edit => cases hhanded
  | other move hmove =>
      obtain ⟨-, -, -, hsend⟩ := Debouncer.mem_handed hhanded
      simp only [Debouncer.send] at hsend
      split at hsend
      · cases hsend
      next found hlookup =>
        cases hsend
        obtain ⟨service, hmem, ⟨hendpoint, hserves⟩, htoken⟩ :=
          htraced.registered dispatch.key.ns target hlookup
        exact ⟨⟨service, hmem, hendpoint, htoken, hserves⟩, rfl, rfl, rfl, rfl⟩

/-- The services of one namespace also serve the scope of the cluster, all with one token. -/
def clusterWide : Rules where
  clusterScope := some "ns-a"
  token := some "secret"

/-- Moves in which a service is replaced while a drain is under way. -/
def replaced : List Move :=
  [.event (.applied (scanner "old")), .edit, .edit, .other (.add ⟨"node", "", "x"⟩),
    .other (.call .none), .other (.poll (.call 0)), .event (.applied (scanner "new")), .edit,
    .edit]

/-- The dispatch of that drain, for an object outside every namespace. -/
def nodeDispatch : Dispatch := ⟨0, ⟨"node", "", "x"⟩, .none, .launched⟩

/-- The request goes to the service that came later, with the token. -/
theorem requests_stay_in_namespace_replaced :
    (nodeDispatch, { scannerTarget "new" with token := some "secret" }, nodeDispatch.request) ∈
        ((new {} {}).run clusterWide replaced).handed (.other (.send nodeDispatch)) ∧
      ∃ service ∈ announced replaced,
        service.endpoint? none = some (scannerTarget "new").endpoint := by
  have hhanded :
      (nodeDispatch, { scannerTarget "new" with token := some "secret" }, nodeDispatch.request) ∈
        ((new {} {}).run clusterWide replaced).handed (.other (.send nodeDispatch)) := by
    decide +kernel
  obtain ⟨⟨service, hmem, hendpoint, _⟩, _⟩ :=
    requests_stay_in_namespace clusterWide {} {} replaced _ _ _ _ hhanded
  exact ⟨hhanded, service, hmem, hendpoint⟩

/-! ## Sessions -/

theorem run_edits (rules : Rules) (debouncer : Debouncer) (sync : Sync)
    (edits : List Registry.Edit) :
    run rules ⟨debouncer, sync, edits⟩ (List.replicate edits.length .edit) =
      ⟨edits.foldl Debouncer.edit debouncer, sync, []⟩ := by
  induction edits generalizing debouncer with
  | nil => rfl
  | cons change edits ih => exact ih (debouncer.edit change)

end Feed

end Rescan.Topology

namespace Rescan.Session

open Rescan.Topology (Feed)

/-- The feed that a session contains. -/
def feed (session : Session) : Feed := ⟨session.debouncer, session.sync, []⟩

/-- A session makes all edits of an event at once. -/
theorem feed_handleService (session : Session) (event : Resource.WatchEvent Topology.Service) :
    (session.handleService event).feed = session.feed.run session.rules
      (.event event ::
        List.replicate (session.sync.handle session.rules event).2.length .edit) := by
  obtain ⟨hsync, -, hdebouncer⟩ := session.handleService_eq event
  have hrun := Feed.run_edits session.rules session.debouncer
    (session.sync.handle session.rules event).1 (session.sync.handle session.rules event).2
  rw [feed, hsync, hdebouncer]
  exact hrun.symm

end Rescan.Session
