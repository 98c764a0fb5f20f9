import Rescan.Debounce.Queue
import Rescan.Delivery.Fault
import Rescan.Resource.Kind

/-! # Failures

A failure is what ends a task of the program. It wraps the fault of one part of the program or
tells of the world outside. Every failure has a text, a category for those who handle it, and
a list of causes, the nearest first.
-/

namespace Rescan

/-- What ended a task of the program. -/
inductive Failure where
  | monitoring (fault : Resource.Fault)
  | debouncing (fault : Debounce.Fault)
  | delivery (fault : Delivery.Fault)
  | settings (fault : Settings.Fault)
  /-- The client of the cluster failed. -/
  | cluster (reason : String)
  /-- The system refused an operation. -/
  | system (reason : String)
  /-- A text is no JSON value. -/
  | json (reason : String)
  /-- The client of the scan service failed. -/
  | client (reason : String) (causes : List String)
  /-- Anything else, told by its context. -/
  | other (context : String) (causes : List String)
  deriving DecidableEq, Repr

namespace Failure

/-- What part of the world a failure is about. -/
inductive Category where
  | network
  | cluster
  | config
  | dispatch
  | other
  deriving DecidableEq, Repr

def Category.word : Category → String
  | .network => "network"
  | .cluster => "cluster"
  | .config => "config"
  | .dispatch => "dispatch"
  | .other => "other"

def plain (context : String) : Failure := .other context []

def message : Failure → String
  | .monitoring fault => "Monitor error: " ++ fault.message
  | .debouncing fault => "Debouncer error: " ++ fault.message
  | .delivery fault => "Dispatch error: " ++ fault.message
  | .settings fault => "Config error: " ++ fault.message
  | .cluster reason => "Kubernetes error: " ++ reason
  | .system reason => "I/O error: " ++ reason
  | .json reason => "JSON error: " ++ reason
  | .client reason _ => "HTTP error: " ++ reason
  | .other context _ => context

def isRecoverable : Failure → Bool
  | .monitoring (.clusterUnreachable _) => true
  | .monitoring _ | .debouncing _ | .settings _ | .json _ | .other _ _ => false
  | .delivery fault => fault.isRecoverable
  | .cluster _ | .system _ | .client _ _ => true

def category : Failure → Category
  | .monitoring (.clusterUnreachable _) | .cluster _ => .cluster
  | .monitoring _ | .settings _ => .config
  | .delivery _ => .dispatch
  | .client _ _ | .system _ => .network
  | .debouncing _ | .json _ | .other _ _ => .other

/-- The texts of the causes of a failure, the nearest first. -/
def causes : Failure → List String
  | .monitoring fault => [fault.message]
  | .debouncing fault => [fault.message]
  | .delivery fault => [fault.message]
  | .settings fault => [fault.message]
  | .cluster reason | .system reason | .json reason => [reason]
  | .client reason causes => reason :: causes
  | .other _ causes => causes

end Failure

end Rescan
