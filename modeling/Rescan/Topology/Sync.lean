import Rescan.Topology.Registry
import Rescan.Topology.Service

/-! # Keeping the registry in step with the services

A service registers its endpoint for its namespace, and for the scope of the cluster if its
namespace is the chosen one. A removed service takes its endpoint back if the endpoint still
stands. While the services are listed the namespaces that register are noted; when the list is
complete every other namespace is dropped.
-/

namespace Rescan.Topology

/-- What a registration depends on beside the service. -/
structure Rules where
  /-- A port in place of the ports of services. -/
  port : Option UInt16 := none
  /-- The namespace whose scan service also serves the scope of the cluster. -/
  clusterScope : Option String := none
  /-- The token of every target. -/
  token : Option String := none
  deriving DecidableEq, Repr, Inhabited

/-- The state of following the services: the namespaces noted, while a list is read. -/
structure Sync where
  listing : Option (List String) := none
  deriving DecidableEq, Repr, Inhabited

/-- The namespaces and the endpoint that a service registers. -/
def Rules.registration? (rules : Rules) (service : Service) : Option (List String × Url) := do
  let ns ← service.metadata.ns
  let endpoint ← service.endpoint? rules.port
  return (if rules.clusterScope = some ns then [ns, ""] else [ns], endpoint)

namespace Sync

def register (rules : Rules) (sync : Sync) (service : Service) : Sync × List Registry.Edit :=
  match rules.registration? service with
  | none => (sync, [])
  | some (namespaces, endpoint) =>
    (⟨sync.listing.map (· ++ namespaces)⟩,
      namespaces.map fun ns => .put ns ⟨endpoint, rules.token⟩)

def withdraw (rules : Rules) (service : Service) : List Registry.Edit :=
  match rules.registration? service with
  | none => []
  | some (namespaces, endpoint) => namespaces.map fun ns => .removeEndpoint ns endpoint

/-- The state after an event, and the edits that the event makes. -/
def handle (rules : Rules) (sync : Sync) :
    Resource.WatchEvent Service → Sync × List Registry.Edit
  | .listBegins => (⟨some []⟩, [])
  | .listed service | .applied service => sync.register rules service
  | .listEnds =>
    match sync.listing with
    | some seen => (⟨none⟩, [.retain seen])
    | none => (sync, [])
  | .deleted service => (sync, withdraw rules service)

end Sync

end Rescan.Topology
