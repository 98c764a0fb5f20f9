import Rescan.Resource.Kind

/-! # The identity of the cluster

The identifier of the cluster is that of a namespace which every cluster has. A namespace that
is missing or has no identifier gives an answer without one; only a cluster that cannot be asked
gives none. The tag that attributes a scan to the cluster is a configured beginning followed by the
identifier. Without an identifier there is no tag.
-/

namespace Rescan.Identity

/-- What is known after asking for the identifier. -/
abbrev Answer := Except Resource.Fault (Option String)

/-- How the cluster replies to a request for the namespace. -/
inductive Reply where
  /-- The namespace with its identifier. -/
  | found (uid : Option String)
  /-- A refusal with a status. -/
  | status (code : Nat)
  /-- No reply at all. -/
  | refused
  deriving DecidableEq, Repr

/-- The answer in a reply. An empty identifier is none. -/
def Reply.answer : Reply → Answer
  | .found uid => .ok (uid.filter fun text => !text.isEmpty)
  | .status code =>
    if code = 404 then .ok none else .error (.clusterUnreachable "the request was refused")
  | .refused => .error (.clusterUnreachable "the connection was refused")

end Rescan.Identity

namespace Rescan

/-- The text that attributes a scan to the cluster it is about. -/
structure Attribution where
  tag : String
  deriving DecidableEq, Repr, Inhabited

namespace Attribution

/-- The attribution to nobody. -/
def none : Attribution := ⟨""⟩

/-- The attribution to the cluster with identifier `uid`; an empty identifier is no
identifier. -/
def ofCluster (stem : String) : Option String → Attribution
  | some uid => if uid.isEmpty then none else ⟨stem ++ uid⟩
  | .none => none

def isEmpty (attribution : Attribution) : Bool := attribution.tag.isEmpty

end Attribution

end Rescan
