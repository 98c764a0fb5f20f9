import Rescan.Debounce.Debouncer
import Rescan.Json.Basic
import Rescan.Telemetry.Exposition

/-! # Probes

Probes ask over HTTP whether the program is alive, whether it is ready and what it has measured.
It is alive as long as it answers, and ready while its debouncer runs.
-/

namespace Rescan.Probe

open Rescan.Debounce (Debouncer Phase)

/-- The health of the program. -/
inductive Health where
  | healthy
  | unhealthy
  deriving DecidableEq, Repr

def Health.word : Health → String
  | .healthy => "healthy"
  | .unhealthy => "unhealthy"

/-- The status of an answer that tells a health. -/
def Health.status : Health → Nat
  | .healthy => 200
  | .unhealthy => 503

def Health.ofBool (condition : Bool) : Health := if condition then .healthy else .unhealthy

/-- The content of an answer. -/
inductive Body where
  | json (content : Json)
  | text (content : String)

def Body.contentType : Body → String
  | .json _ => "application/json"
  | .text _ => "text/plain; version=0.0.4"

/-- An answer to a probe. -/
structure Answer where
  status : Nat
  contentType : Option String := none
  /-- The methods that are allowed, if the one of the probe is not. -/
  allow : Option String := none
  body : Option Body := none

def Answer.ofBody (status : Nat) (body : Body) : Answer :=
  { status, contentType := some body.contentType, body := some body }

/-- Whether the program is alive. -/
def liveness (uptimeSecs : Nat) : Answer :=
  .ofBody Health.healthy.status
    (.json (.object [("status", .string Health.healthy.word), ("uptime_secs", .ofNat uptimeSecs)]))

/-- Whether the program is ready, told by the phase of its debouncer; the numbers of pending keys
and of targets go with it. -/
def readinessOf (phase : Phase) (pending targets : Nat) : Answer :=
  let health := Health.ofBool (phase == .running)
  .ofBody health.status
    (.json (.object [("status", .string health.word), ("debouncer", .string phase.word),
      ("pending_keys", .ofNat pending), ("scan_targets", .ofNat targets)]))

/-- Whether the program is ready. -/
def readiness (debouncer : Debouncer) : Answer :=
  readinessOf debouncer.queue.phase debouncer.queue.size debouncer.registry.size

def measurements (debouncer : Debouncer) : Answer := .ofBody 200 (.text debouncer.meter.expose)

def atPath? (debouncer : Debouncer) (uptimeSecs : Nat) : String → Option Answer
  | "/healthz" => some (liveness uptimeSecs)
  | "/readyz" => some (readiness debouncer)
  | "/metrics" => some (measurements debouncer)
  | _ => none

def withoutQuery (path : String) : String := String.ofList (path.toList.takeWhile (· != '?'))

/-- The answer to a probe with a method at a path. -/
def answer (debouncer : Debouncer) (uptimeSecs : Nat) (method path : String) : Answer :=
  match atPath? debouncer uptimeSecs (withoutQuery path) with
  | none => { status := 404 }
  | some found =>
    if method = "GET" then found
    else if method = "HEAD" then { found with body := none }
    else { status := 405, allow := some "GET,HEAD" }

end Rescan.Probe
