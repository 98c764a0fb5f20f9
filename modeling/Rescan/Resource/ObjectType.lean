import Rescan.Resource.Kind

/-! # Types of objects

The cluster offers its objects by type. Every type has a title, which spells its kind in the way
of the cluster. The program knows a fixed choice of types and finds the one to watch by the name
of a kind.
-/

namespace Rescan.Resource

/-- A type of objects that the program can watch. -/
inductive ObjectType where
  | pod
  | deployment
  | daemonSet
  | statefulSet
  | replicaSet
  | job
  | cronJob
  | node
  deriving DecidableEq, Repr

namespace ObjectType

/-- How the cluster spells the kind of the objects. -/
def title : ObjectType → String
  | .pod => "Pod"
  | .deployment => "Deployment"
  | .daemonSet => "DaemonSet"
  | .statefulSet => "StatefulSet"
  | .replicaSet => "ReplicaSet"
  | .job => "Job"
  | .cronJob => "CronJob"
  | .node => "Node"

/-- The kind of the objects, which is read from the title. -/
def kind (type : ObjectType) : Except Fault Kind := Kind.ofName type.title

/-- The type of the objects of a kind. -/
def ofKind? (kind : Kind) : Option ObjectType :=
  match kind.name with
  | "pod" => some .pod
  | "deployment" => some .deployment
  | "daemonset" => some .daemonSet
  | "statefulset" => some .statefulSet
  | "replicaset" => some .replicaSet
  | "job" => some .job
  | "cronjob" => some .cronJob
  | "node" => some .node
  | _ => none

end ObjectType

end Rescan.Resource
