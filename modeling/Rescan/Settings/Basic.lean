import Rescan.Net.SocketAddress
import Rescan.Resource.Kind
import Rescan.Text.Basic

/-! # Settings

The settings of the program are grouped in six sections. Every field has a default, so that a
source of settings may name any of them and leave out the rest. A check of settings can find a value
that cannot be used, or no value where one is needed.
-/

namespace Rescan

namespace Settings

/-- Why settings are refused. -/
inductive Fault where
  /-- The value of a field cannot be used. -/
  | invalidValue (field reason : String)
  /-- A field that is needed is empty. -/
  | missingField (field : String)
  deriving DecidableEq, Repr

def Fault.message : Fault → String
  | .invalidValue field reason => "Invalid value for '" ++ field ++ "': " ++ reason
  | .missingField field => "Missing required field: " ++ field

/-- When and how widely collected keys are handed out. -/
structure Debouncer where
  /-- The time between two drains in milliseconds. -/
  tickIntervalMs : Nat := 5000
  /-- How many dispatches of one drain may be in flight at once. -/
  maxConcurrentDispatches : Nat := 8
  deriving DecidableEq, Repr, Inhabited

/-- How scan requests are posted. -/
structure Dispatch where
  requestTimeoutSecs : Nat := 30
  /-- The path that is resolved against the endpoint of a scan service. -/
  scanPath : String := "/Scan/ScheduleKubernetesResourceScan"
  /-- The bearer token of requests to targets without a token of their own. -/
  token : Option String := none
  deriving DecidableEq, Repr, Inhabited

/-- What is watched and how the cluster is identified. -/
structure Monitor where
  kinds : List String := Resource.Kind.watched
  /-- The namespace whose identifier identifies the cluster. -/
  identityNamespace : String := "kube-system"
  /-- The beginning of the attribution of every scan. -/
  managedByPrefix : String := "scanwatch-operator-"
  deriving DecidableEq, Repr, Inhabited

/-- How scan services are discovered. -/
structure ScanApi where
  labelSelector : String := "app.kubernetes.io/name=scan-api"
  /-- A port to use in place of the first port of each service. -/
  port : Option UInt16 := none
  /-- The namespace whose scan service also serves cluster-scoped objects. -/
  clusterScopeNamespace : Option String := none
  deriving DecidableEq, Repr, Inhabited

/-- Where health probes are answered. -/
structure Health where
  enabled : Bool := true
  bindAddress : Net.SocketAddress := .v4 ⟨0, 0, 0, 0⟩ 8081
  deriving DecidableEq, Repr, Inhabited

/-- What is logged. -/
structure Logging where
  level : String := "info"
  format : String := "text"
  deriving DecidableEq, Repr, Inhabited

namespace Debouncer

/-- The settings with the tick interval of a duration in nanoseconds. It is cut to whole
milliseconds, but only the empty duration becomes zero; it stays within 64 bits. -/
def withTickInterval (settings : Debouncer) (nanoseconds : Nat) : Debouncer :=
  let millis := min (nanoseconds / 1000000) Text.maxWord
  { settings with tickIntervalMs := if millis = 0 ∧ nanoseconds ≠ 0 then 1 else millis }

end Debouncer

end Settings

/-- All settings of the program. -/
structure Settings where
  debouncer : Settings.Debouncer := {}
  dispatch : Settings.Dispatch := {}
  monitor : Settings.Monitor := {}
  scanApi : Settings.ScanApi := {}
  health : Settings.Health := {}
  logging : Settings.Logging := {}
  deriving DecidableEq, Repr, Inhabited

/-- The settings as they are shown: a token is masked, even an empty one. -/
def Settings.redacted (settings : Settings) : Settings :=
  let dispatch := settings.dispatch
  { settings with dispatch := { dispatch with token := dispatch.token.map fun _ => "<redacted>" } }

end Rescan
