import Rescan.Resource.Kind

/-! # Resource keys

The key of a watched object consists of its kind, its namespace and its name. Cluster-scoped
objects have the empty namespace. A key is rendered as `kind:namespace:name`; reading a
rendered key accepts exactly two colons with a kind and a name around them.
-/

namespace Rescan.Resource

/-- The identity of one watched object, on which bursts of changes are coalesced. -/
structure Key where
  kind : String
  /-- The namespace, empty for cluster-scoped objects. -/
  ns : String
  name : String
  deriving DecidableEq, Repr, Inhabited

namespace Key

def ofKind (kind : Kind) (ns name : String) : Key := ⟨kind.name, ns, name⟩

/-- An object outside every namespace. -/
def isClusterScoped (key : Key) : Bool := key.ns.isEmpty

def render (key : Key) : String :=
  key.kind ++ ":" ++ key.ns ++ ":" ++ key.name

/-- A list cut at its first colon, when it has one. -/
def cutColon? : List Char → Option (List Char × List Char)
  | [] => none
  | c :: rest =>
    if c = ':' then some ([], rest)
    else (cutColon? rest).map fun (before, after) => (c :: before, after)

/-- The key that a text renders, if it renders one. -/
def read? (text : String) : Option Key := do
  let (kind, rest) ← cutColon? text.toList
  let (ns, name) ← cutColon? rest
  if kind.isEmpty || name.isEmpty || name.contains ':' then none
  else some ⟨String.ofList kind, String.ofList ns, String.ofList name⟩

/-- The key that a text renders, or the fault that the text is none. -/
def parse (text : String) : Except Fault Key :=
  match read? text with
  | some key => .ok key
  | none => .error (.invalidKey text)

/-- Keys compare by kind, then namespace, then name, each by code points. -/
def compare (a b : Key) : Ordering :=
  (Ord.compare a.kind b.kind).then ((Ord.compare a.ns b.ns).then (Ord.compare a.name b.name))

def le (a b : Key) : Bool := (compare a b).isLE

def sort (keys : List Key) : List Key := keys.mergeSort le

end Key

end Rescan.Resource
