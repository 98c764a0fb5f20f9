import Rescan.Topology.Target

/-! # The registry of targets

The registry gives each namespace at most one target; the empty namespace stands for the scope
of the cluster. Namespaces are kept in the order of their code points. The registry changes by
edits only.
-/

namespace Rescan.Topology

/-- The target of each namespace that has one. -/
structure Registry where
  entries : List (String × Target) := []
  sorted : entries.Pairwise (fun a b => a.1 < b.1)

namespace Registry

def empty : Registry := ⟨[], .nil⟩

instance : Inhabited Registry := ⟨empty⟩

/-- Puts an entry into its place in sorted entries, over one of the same namespace. -/
def place (ns : String) (target : Target) : List (String × Target) → List (String × Target)
  | [] => [(ns, target)]
  | entry :: rest =>
    if ns < entry.1 then (ns, target) :: entry :: rest
    else if ns = entry.1 then (ns, target) :: rest
    else entry :: place ns target rest

theorem mem_place {ns : String} {target : Target} {entries : List (String × Target)}
    {entry : String × Target} (h : entry ∈ place ns target entries) :
    entry = (ns, target) ∨ entry ∈ entries := by
  induction entries with
  | nil => exact Or.inl (List.mem_singleton.mp h)
  | cons first rest ih =>
    simp only [place] at h
    split at h
    · exact List.mem_cons.mp h
    · split at h
      · rcases List.mem_cons.mp h with h | h
        · exact Or.inl h
        · exact Or.inr (List.mem_cons_of_mem _ h)
      · rcases List.mem_cons.mp h with h | h
        · exact Or.inr (h ▸ List.mem_cons_self)
        · exact (ih h).imp id (List.mem_cons_of_mem _)

theorem lt_of_not_lt_of_ne {a b : String} (h : ¬a < b) (hne : a ≠ b) : b < a := by
  rcases Decidable.em (b < a) with hba | hba
  · exact hba
  · exact absurd (String.le_antisymm (String.not_lt.mp hba) (String.not_lt.mp h)) hne

theorem pairwise_place {ns : String} {target : Target} {entries : List (String × Target)}
    (h : entries.Pairwise (fun a b => a.1 < b.1)) :
    (place ns target entries).Pairwise (fun a b => a.1 < b.1) := by
  induction entries with
  | nil => exact List.pairwise_singleton _ _
  | cons first rest ih =>
    have hfirst := (List.pairwise_cons.mp h).1
    have hrest := (List.pairwise_cons.mp h).2
    simp only [place]
    split
    next hlt =>
      refine List.pairwise_cons.mpr ⟨fun entry hentry => ?_, h⟩
      rcases List.mem_cons.mp hentry with rfl | hentry
      · exact hlt
      · exact String.lt_trans hlt (hfirst entry hentry)
    next hlt =>
      split
      next heq =>
        exact List.pairwise_cons.mpr ⟨fun entry hentry => heq ▸ hfirst entry hentry, hrest⟩
      next hne =>
        refine List.pairwise_cons.mpr ⟨fun entry hentry => ?_, ih hrest⟩
        rcases mem_place hentry with rfl | hentry
        · exact lt_of_not_lt_of_ne hlt hne
        · exact hfirst entry hentry

/-- The registry with a target for a namespace. -/
def put (registry : Registry) (ns : String) (target : Target) : Registry :=
  ⟨place ns target registry.entries, pairwise_place registry.sorted⟩

/-- The registry with the entries that satisfy a condition. -/
def filter (registry : Registry) (keep : String × Target → Bool) : Registry :=
  ⟨registry.entries.filter keep, registry.sorted.filter keep⟩

/-- The registry without a target for a namespace. -/
def remove (registry : Registry) (ns : String) : Registry :=
  registry.filter fun entry => entry.1 != ns

/-- The registry without the target for a namespace if that has the given endpoint. -/
def removeEndpoint (registry : Registry) (ns : String) (endpoint : Url) : Registry :=
  registry.filter fun entry => !(entry.1 == ns && entry.2.endpoint == endpoint)

/-- The registry with the given namespaces alone. -/
def retain (registry : Registry) (keep : List String) : Registry :=
  registry.filter fun entry => keep.contains entry.1

def lookup (registry : Registry) (ns : String) : Option Target :=
  (registry.entries.find? fun entry => entry.1 == ns).map (·.2)

def namespaces (registry : Registry) : List String := registry.entries.map (·.1)

def size (registry : Registry) : Nat := registry.entries.length

def isEmpty (registry : Registry) : Bool := registry.entries.isEmpty

/-- Whether the target for a namespace has the given endpoint. -/
def hasEndpoint (registry : Registry) (ns : String) (endpoint : Url) : Bool :=
  (registry.lookup ns).any (·.endpoint == endpoint)

/-- A change of the registry. -/
inductive Edit where
  /-- A target for a namespace, in place of any other. -/
  | put (ns : String) (target : Target)
  /-- No target for a namespace. -/
  | remove (ns : String)
  /-- No target for a namespace if it has this endpoint. -/
  | removeEndpoint (ns : String) (endpoint : Url)
  /-- No targets for any but these namespaces. -/
  | retain (keep : List String)
  deriving DecidableEq, Repr

def apply (registry : Registry) : Edit → Registry
  | .put ns target => registry.put ns target
  | .remove ns => registry.remove ns
  | .removeEndpoint ns endpoint => registry.removeEndpoint ns endpoint
  | .retain keep => registry.retain keep

/-- What is returned for an edit. -/
inductive Reply where
  | done
  /-- The target that was removed, if there was one. -/
  | removed (target : Option Target)
  /-- Whether the target had the endpoint, so that it was removed. -/
  | matched (isMatch : Bool)
  /-- How many targets were dropped. -/
  | dropped (count : Nat)
  deriving DecidableEq, Repr

def reply (registry : Registry) : Edit → Reply
  | .put _ _ => .done
  | .remove ns => .removed (registry.lookup ns)
  | .removeEndpoint ns endpoint => .matched (registry.hasEndpoint ns endpoint)
  | .retain keep => .dropped (registry.size - (registry.retain keep).size)

/-- Whether the size of the registry is reported with an edit: a conditional removal is reported
only if its condition holds. -/
def reports (registry : Registry) : Edit → Bool
  | .put _ _ | .remove _ | .retain _ => true
  | .removeEndpoint ns endpoint => registry.hasEndpoint ns endpoint

end Registry

end Rescan.Topology
