import Rescan.Text.Basic

/-! # Resource kinds

A kind is named in lower case without blanks at its ends. Its name is never empty and never
holds the colon that separates the parts of a resource key. Only some kinds can be watched: the
objects of each of these form a collection, which is found under a path of its own.
-/

namespace Rescan.Resource

/-- Why a resource cannot be identified or the cluster cannot be asked. -/
inductive Fault where
  /-- A text that names no resource kind. -/
  | unknownKind (name : String)
  /-- A text that is no rendered resource key. -/
  | invalidKey (text : String)
  /-- The cluster's own interface cannot be reached. -/
  | clusterUnreachable (reason : String)
  deriving DecidableEq, Repr

def Fault.message : Fault → String
  | .unknownKind name => "Unknown resource kind: " ++ name
  | .invalidKey text => "Invalid resource key: " ++ text
  | .clusterUnreachable reason => "Cluster API unreachable: " ++ reason

/-- The canonical name of a kind of cluster object. -/
structure Kind where
  name : String
  deriving DecidableEq, Repr

namespace Kind

/-- The kinds that can be watched, in the order in which they are listed to users. -/
def watched : List String :=
  ["pod", "deployment", "daemonset", "statefulset", "replicaset", "job", "cronjob", "node"]

/-- The kind a name stands for: blanks at the ends are dropped and ASCII letters become lower
case. -/
def ofName (name : String) : Except Fault Kind :=
  let trimmed := Text.trim name
  if trimmed.isEmpty then .error (.unknownKind "<empty>")
  else if trimmed.toList.contains ':' then .error (.unknownKind trimmed)
  else .ok ⟨Text.asciiLower trimmed⟩

/-- The kind a setting stands for, which must be one that can be watched. The fault of a kind
that cannot be watched shows the setting as it was written. -/
def ofSetting (name : String) : Except Fault Kind := do
  let kind ← ofName name
  if watched.contains kind.name then .ok kind else .error (.unknownKind name)

end Kind

/-! ## Collections of the cluster -/

def servicesPath : String := "/api/v1/services"

def namespacePath (name : String) : String := "/api/v1/namespaces/" ++ name

/-- The path of the collection of a kind that can be watched. -/
def Kind.collection? (kind : Kind) : Option String :=
  match kind.name with
  | "pod" => some "/api/v1/pods"
  | "node" => some "/api/v1/nodes"
  | "deployment" => some "/apis/apps/v1/deployments"
  | "daemonset" => some "/apis/apps/v1/daemonsets"
  | "statefulset" => some "/apis/apps/v1/statefulsets"
  | "replicaset" => some "/apis/apps/v1/replicasets"
  | "job" => some "/apis/batch/v1/jobs"
  | "cronjob" => some "/apis/batch/v1/cronjobs"
  | _ => none

end Rescan.Resource
