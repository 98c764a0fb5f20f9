import Rescan.Resource.Change
import Rescan.Url.Reader

/-! # Services of scan APIs

A service is known by its metadata and its ports. Its endpoint is the URL at which the services
of a cluster are reached by name; odd names give odd URLs or none.
-/

namespace Rescan.Topology

/-- A service of the cluster. -/
structure Service where
  metadata : Resource.Metadata
  /-- The ports in order, if any are specified. -/
  ports : Option (List Int) := none
  deriving DecidableEq, Repr, Inhabited

namespace Service

def renderInt : Int → String
  | .ofNat n => Text.decimal n
  | .negSucc n => "-" ++ Text.decimal (n + 1)

/-- The port that applies: the given one, else the first of the service. -/
def port? (service : Service) (override : Option UInt16) : Option Int :=
  match override with
  | some port => some port.toNat
  | none => service.ports.bind List.head?

def address (name ns : String) (port : Int) : String :=
  "http://" ++ name ++ "." ++ ns ++ ".svc:" ++ renderInt port

/-- The URL at which a service is reached. -/
def endpoint? (service : Service) (override : Option UInt16) : Option Url := do
  let ns ← service.metadata.ns
  let name ← service.metadata.name
  let port ← service.port? override
  (Url.parse (address name ns port)).toOption

end Service

end Rescan.Topology
