import Rescan.Settings.Basic
import Rescan.Text.Basic
import Rescan.Text.Utf8

/-! # Settings from the environment

Every field has a variable of its own. A variable that is not set leaves the default; so does
one whose value is no text. The variables are read in a fixed order, and the first one whose
value does not have the form of its field is reported with that value.
-/

namespace Rescan.Settings

/-- The variables that are set, with the bytes of their values. -/
abbrev Environment := List (String × List UInt8)

/-- The text of a variable, if it is set to a text. -/
def Environment.get? (env : Environment) (name : String) : Option String :=
  (env.find? fun entry => entry.1 == name).bind fun entry => Text.Utf8.decode? entry.2

/-- A variable whose value does not have the form of its field. -/
structure EnvironmentFault where
  name : String
  value : String
  deriving DecidableEq, Repr

/-- The text shown for a fault of the environment. -/
def EnvironmentFault.message (fault : EnvironmentFault) : String :=
  "Invalid value for " ++ fault.name ++ ": " ++ fault.value

/-- The value of a variable that must have a certain form, if it is set. -/
def Environment.readForm {α : Type} (env : Environment) (read : String → Option α)
    (name : String) : Except EnvironmentFault (Option α) :=
  match env.get? name with
  | none => .ok none
  | some value =>
    match read value with
    | some parsed => .ok (some parsed)
    | none => .error ⟨name, value⟩

def splitAtChar (mark : Char) : List Char → List (List Char)
  | [] => [[]]
  | c :: rest =>
    if c = mark then [] :: splitAtChar mark rest
    else
      match splitAtChar mark rest with
      | [] => [[c]]
      | part :: more => (c :: part) :: more

/-- The kinds in a text: its parts between commas, trimmed, without empty ones. -/
def readKinds (value : String) : List String :=
  ((splitAtChar ',' value.toList).map fun part =>
    String.ofList (Text.trimWhile Text.isBlank part)).filter fun kind => !kind.isEmpty

def readFlag? : String → Option Bool
  | "true" => some true
  | "false" => some false
  | _ => none

/-- The names of the variables, in the order in which they are read. -/
def variableNames : List String :=
  ["SCANWATCH_TICK_INTERVAL_MS", "SCANWATCH_MAX_CONCURRENT_DISPATCHES",
    "SCANWATCH_REQUEST_TIMEOUT", "SCANWATCH_SCAN_PATH", "SCANWATCH_SCAN_API_TOKEN",
    "SCANWATCH_KINDS", "SCANWATCH_IDENTITY_NAMESPACE", "SCANWATCH_MANAGED_BY_PREFIX",
    "SCANWATCH_SCAN_API_SELECTOR", "SCANWATCH_SCAN_API_PORT",
    "SCANWATCH_CLUSTER_SCOPE_NAMESPACE", "SCANWATCH_HEALTH_ENABLED", "SCANWATCH_HEALTH_BIND",
    "SCANWATCH_LOG_LEVEL", "SCANWATCH_LOG_FORMAT"]

def ofEnvironment (env : Environment) : Except EnvironmentFault Settings := do
  let word := Text.readUnsigned? Text.maxWord
  let default : Settings := {}
  let tick ← env.readForm word "SCANWATCH_TICK_INTERVAL_MS"
  let most ← env.readForm word "SCANWATCH_MAX_CONCURRENT_DISPATCHES"
  let timeout ← env.readForm word "SCANWATCH_REQUEST_TIMEOUT"
  let port ← env.readForm (Text.readUnsigned? Text.maxPort) "SCANWATCH_SCAN_API_PORT"
  let enabled ← env.readForm readFlag? "SCANWATCH_HEALTH_ENABLED"
  let address ← env.readForm Net.SocketAddress.parse? "SCANWATCH_HEALTH_BIND"
  let text (name fallback : String) : String := (env.get? name).getD fallback
  return {
    debouncer := ⟨tick.getD default.debouncer.tickIntervalMs,
      most.getD default.debouncer.maxConcurrentDispatches⟩
    dispatch := ⟨timeout.getD default.dispatch.requestTimeoutSecs,
      text "SCANWATCH_SCAN_PATH" default.dispatch.scanPath,
      env.get? "SCANWATCH_SCAN_API_TOKEN"⟩
    monitor := ⟨((env.get? "SCANWATCH_KINDS").map readKinds).getD default.monitor.kinds,
      text "SCANWATCH_IDENTITY_NAMESPACE" default.monitor.identityNamespace,
      text "SCANWATCH_MANAGED_BY_PREFIX" default.monitor.managedByPrefix⟩
    scanApi := ⟨text "SCANWATCH_SCAN_API_SELECTOR" default.scanApi.labelSelector,
      port.map UInt16.ofNat,
      env.get? "SCANWATCH_CLUSTER_SCOPE_NAMESPACE"⟩
    health := ⟨enabled.getD default.health.enabled, address.getD default.health.bindAddress⟩
    logging := ⟨text "SCANWATCH_LOG_LEVEL" default.logging.level,
      text "SCANWATCH_LOG_FORMAT" default.logging.format⟩ }

end Rescan.Settings
