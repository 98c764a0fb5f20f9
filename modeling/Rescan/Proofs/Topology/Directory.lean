import Mathlib
import Rescan.Proofs.Text.Utf8
import Rescan.Proofs.Topology.Lookup

/-! # The registry as a finite map

A directory is a finite map from namespaces to targets, without any order. A new registry that is
edited answers each edit as the empty directory does, and shows the same at any time. So the target
of a namespace is the last one that was put there, unless a later edit ended it.
-/

namespace Rescan.Topology

open Registry (Edit Reply)

/-- What is returned for edits that are carried out one after the other. -/
def transcript {State : Type} (apply : State → Edit → State) (reply : State → Edit → Reply)
    (state : State) : List Edit → List Reply
  | [] => []
  | change :: rest => reply state change :: transcript apply reply (apply state change) rest

/-- A finite map from namespaces to targets. -/
abbrev Directory := Std.ExtHashMap String Target

namespace Directory

def hasEndpoint (directory : Directory) (ns : String) (endpoint : Url) : Bool :=
  directory[ns]?.any (·.endpoint == endpoint)

def apply (directory : Directory) : Edit → Directory
  | .put ns target => directory.insert ns target
  | .remove ns => directory.erase ns
  | .removeEndpoint ns endpoint =>
    if directory.hasEndpoint ns endpoint then directory.erase ns else directory
  | .retain keep => directory.filter fun ns _ => keep.contains ns

def reply (directory : Directory) : Edit → Reply
  | .put _ _ => .done
  | .remove ns => .removed directory[ns]?
  | .removeEndpoint ns endpoint => .matched (directory.hasEndpoint ns endpoint)
  | .retain keep => .dropped (directory.filter fun ns _ => !keep.contains ns).size

end Directory

namespace Registry

/-! ## The directory of a registry -/

def toDirectory (registry : Registry) : Directory := .ofList registry.entries

section Directory

variable (registry : Registry)

theorem pairwise_ne : registry.entries.Pairwise fun a b => (a.1 == b.1) = false :=
  registry.sorted.imp fun hlt => beq_eq_false_iff_ne.mpr (String.ne_of_lt hlt)

@[simp] theorem getElem?_toDirectory (ns : String) :
    registry.toDirectory[ns]? = registry.lookup ns := by
  cases hlookup : registry.lookup ns with
  | some target =>
      exact Std.ExtHashMap.getElem?_ofList_of_mem (beq_self_eq_true ns) registry.pairwise_ne
        (lookup_eq_some_iff.mp hlookup)
  | none =>
      refine Std.ExtHashMap.getElem?_ofList_of_contains_eq_false ?_
      rw [List.contains_eq_mem, decide_eq_false_iff_not, ← namespaces, mem_namespaces_iff, hlookup]
      exact Bool.false_ne_true

@[simp] theorem size_toDirectory : registry.toDirectory.size = registry.size :=
  Std.ExtHashMap.size_ofList registry.pairwise_ne

@[simp] theorem isEmpty_toDirectory : registry.toDirectory.isEmpty = registry.isEmpty := by
  rw [Bool.eq_iff_iff, Std.ExtHashMap.isEmpty_iff, isEmpty, List.isEmpty_iff]
  constructor
  · intro hempty
    have hsize := registry.size_toDirectory
    rw [hempty] at hsize
    exact List.length_eq_zero_iff.mp hsize.symm
  · intro hempty
    rw [toDirectory, hempty]
    exact Std.ExtHashMap.ofList_nil

@[simp] theorem hasEndpoint_toDirectory (ns : String) (endpoint : Url) :
    registry.toDirectory.hasEndpoint ns endpoint = registry.hasEndpoint ns endpoint := by
  rw [Directory.hasEndpoint, getElem?_toDirectory, hasEndpoint]

theorem toDirectory_filter (keep : String × Target → Bool) :
    (registry.filter keep).toDirectory =
      registry.toDirectory.filter fun ns target => keep (ns, target) := by
  refine Std.ExtHashMap.ext_getElem? fun ns => ?_
  rw [getElem?_toDirectory, lookup_filter, Std.ExtHashMap.getElem?_filter', getElem?_toDirectory]

theorem toDirectory_empty : empty.toDirectory = ∅ := Std.ExtHashMap.ofList_nil

theorem toDirectory_remove (ns : String) :
    (registry.remove ns).toDirectory = registry.toDirectory.erase ns := by
  refine Std.ExtHashMap.ext_getElem? fun other => ?_
  rw [getElem?_toDirectory, lookup_remove, Std.ExtHashMap.getElem?_erase, getElem?_toDirectory]
  simp only [beq_iff_eq, @eq_comm _ ns other]

/-- An edit does to the registry what it does to its directory. -/
theorem toDirectory_apply (change : Edit) :
    (registry.apply change).toDirectory = registry.toDirectory.apply change := by
  cases change with
  | put ns target =>
      refine Std.ExtHashMap.ext_getElem? fun other => ?_
      rw [getElem?_toDirectory, apply, lookup_put, Directory.apply, Std.ExtHashMap.getElem?_insert,
        getElem?_toDirectory]
      simp only [beq_iff_eq, @eq_comm _ ns other]
  | remove ns => exact registry.toDirectory_remove ns
  | removeEndpoint ns endpoint =>
      rw [Directory.apply, hasEndpoint_toDirectory]
      cases hmatch : registry.hasEndpoint ns endpoint with
      | true => rw [apply, removeEndpoint_of_hasEndpoint hmatch, toDirectory_remove, if_pos rfl]
      | false =>
          have hsame : registry.apply (.removeEndpoint ns endpoint) = registry :=
            apply_of_not_reports hmatch
          rw [hsame, if_neg Bool.false_ne_true]
  | retain keep => exact registry.toDirectory_filter _

/-- How many targets are dropped by an edit that keeps some namespaces alone. -/
theorem size_sub_size_retain (keep : List String) :
    registry.size - (registry.retain keep).size =
      (registry.filter fun entry => !keep.contains entry.1).size := by
  have hsplit := List.length_eq_length_filter_add (l := registry.entries)
    fun entry => keep.contains entry.1
  simp only [size, retain, filter]
  omega

/-- A registry and its directory return the same for an edit. -/
theorem reply_toDirectory (change : Edit) :
    registry.toDirectory.reply change = registry.reply change := by
  cases change with
  | put ns target => rfl
  | remove ns => rw [Directory.reply, getElem?_toDirectory, reply]
  | removeEndpoint ns endpoint => rw [Directory.reply, hasEndpoint_toDirectory, reply]
  | retain keep =>
      rw [reply, size_sub_size_retain, ← size_toDirectory, toDirectory_filter, Directory.reply]

/-- Edits do to the registry what they do to its directory. -/
theorem toDirectory_foldl (edits : List Edit) :
    (edits.foldl apply registry).toDirectory =
      edits.foldl Directory.apply registry.toDirectory := by
  induction edits generalizing registry with
  | nil => rfl
  | cons change rest ih => rw [List.foldl_cons, List.foldl_cons, ih, toDirectory_apply]

theorem transcript_toDirectory (edits : List Edit) :
    transcript Directory.apply Directory.reply registry.toDirectory edits =
      transcript apply reply registry edits := by
  induction edits generalizing registry with
  | nil => rfl
  | cons change rest ih =>
      rw [transcript, transcript, reply_toDirectory, ← toDirectory_apply, ih]

end Directory

/-! ## What is left of earlier edits -/

/-- The target of a namespace is the last one that was put there, unless it was ended since. -/
theorem lookup_foldl_apply_iff {edits : List Edit} {ns : String} {target : Target} :
    (edits.foldl apply empty).lookup ns = some target ↔
      ∃ before since, edits = before ++ .put ns target :: since ∧
        ∀ later ∈ since, later.ends ns target = false := by
  induction edits using List.reverseRecOn with
  | nil => simp
  | append_singleton edits change ih =>
      rw [List.foldl_concat, lookup_apply_iff, ih, exists_split_concat_iff]

/-! ## All that is returned and shown -/

/-- Namespaces are listed in the order of their bytes. -/
theorem pairwise_encode_namespaces (registry : Registry) :
    registry.namespaces.Pairwise fun first second =>
      Text.Utf8.encode first.toList < Text.Utf8.encode second.toList :=
  List.pairwise_map.mpr <| registry.sorted.imp fun hlt =>
    Text.Utf8.encode_lt_encode (String.lt_iff_toList_lt.mp hlt)

/-- An edit that keeps some namespaces alone tells how many others had a target. -/
theorem reply_retain (registry : Registry) (keep : List String) :
    registry.reply (.retain keep) =
      .dropped (registry.namespaces.filter (· ∉ keep)).length := by
  rw [reply, size_sub_size_retain, namespaces, List.filter_map, List.length_map]
  simp [size, filter, Function.comp_def]

/-- A new registry agrees with the empty directory, whatever edits follow. What was put last for a
namespace is looked up until an edit ends it. A removal returns it and drops it; a conditional one
does so if its endpoint is the given one, and changes nothing otherwise; and to retain some
namespaces leaves their targets as they are and tells how many others are dropped. No edit changes
the target of a namespace that it does not concern. The namespaces are listed once each, by their
bytes. -/
theorem agrees_with_directory (edits : List Edit) :
    let current := edits.foldl apply empty
    let directory := edits.foldl Directory.apply ∅
    transcript apply reply empty edits = transcript Directory.apply Directory.reply ∅ edits ∧
    ((∀ ns, current.lookup ns = directory[ns]?) ∧ (∀ ns, ns ∈ current.namespaces ↔ ns ∈ directory) ∧
      current.size = directory.size ∧ current.isEmpty = directory.isEmpty) ∧
    (∀ ns target, current.lookup ns = some target ↔
      ∃ before since, edits = before ++ .put ns target :: since ∧
        ∀ later ∈ since, later.ends ns target = false) ∧
    (∀ ns, current.reply (.remove ns) = .removed (current.lookup ns) ∧
      (current.apply (.remove ns)).lookup ns = none) ∧
    (∀ ns endpoint,
      let change := Edit.removeEndpoint ns endpoint
      ((∃ target, current.lookup ns = some target ∧ target.endpoint = endpoint) →
        current.reply change = .matched true ∧ (current.apply change).lookup ns = none) ∧
      ((¬∃ target, current.lookup ns = some target ∧ target.endpoint = endpoint) →
        current.reply change = .matched false ∧ current.apply change = current)) ∧
    (∀ keep : List String,
      (∀ ns, (current.apply (.retain keep)).lookup ns =
        if ns ∈ keep then current.lookup ns else none) ∧
      current.reply (.retain keep) = .dropped (current.namespaces.filter (· ∉ keep)).length) ∧
    (∀ (change : Edit) ns, change.concerns ns = false →
      (current.apply change).lookup ns = current.lookup ns) ∧
    (current.namespaces.Pairwise fun first second =>
      Text.Utf8.encode first.toList < Text.Utf8.encode second.toList) ∧
    (∀ ns, ns ∈ current.namespaces ↔ (current.lookup ns).isSome) ∧
    current.size = current.namespaces.length ∧
    (current.isEmpty = true ↔ current.namespaces = []) := by
  intro current directory
  have hdirectory : current.toDirectory = directory := by
    rw [toDirectory_foldl, toDirectory_empty]
  rw [← hdirectory]
  refine ⟨?_, ⟨fun ns => (current.getElem?_toDirectory ns).symm, fun ns => ?_,
      current.size_toDirectory.symm, current.isEmpty_toDirectory.symm⟩,
    fun ns target => lookup_foldl_apply_iff, fun ns => ⟨rfl, ?_⟩, fun ns endpoint => ⟨?_, ?_⟩,
    fun keep => ⟨fun ns => lookup_retain .., reply_retain ..⟩,
    fun change ns => lookup_apply_of_not_concerns, pairwise_encode_namespaces _,
    fun ns => mem_namespaces_iff, (List.length_map ..).symm, ?_⟩
  · rw [← toDirectory_empty, transcript_toDirectory]
  · rw [mem_namespaces_iff, Std.ExtHashMap.mem_iff_isSome_getElem?, getElem?_toDirectory]
  · rw [apply, lookup_remove, if_pos rfl]
  · intro hmatch
    have hmatch := hasEndpoint_iff.mpr hmatch
    rw [reply, hmatch, apply, removeEndpoint_of_hasEndpoint hmatch, lookup_remove, if_pos rfl]
    exact ⟨rfl, rfl⟩
  · intro hmatch
    have hmatch := Bool.eq_false_iff.mpr (mt hasEndpoint_iff.mp hmatch)
    exact ⟨congrArg Reply.matched hmatch, apply_of_not_reports hmatch⟩
  · rw [isEmpty, List.isEmpty_iff, namespaces, List.map_eq_nil_iff]

/-- A target at a port of some host. -/
def targetAt (port : UInt16) : Target where
  endpoint :=
    { scheme := "http", host := some (.name "scan"), port := some port, path := .segments [""] }

/-- A namespace is given a second target, and is not bereft of it by the endpoint of the first. -/
def relocation : List Edit :=
  [.put "b" (targetAt 1), .put "a" (targetAt 1), .put "a" (targetAt 2),
    .removeEndpoint "a" (targetAt 1).endpoint, .retain ["a", "c"], .remove "c"]

/-- The namespace has its second target in the end, and the one that was not retained has none. -/
theorem agrees_with_directory_relocation :
    transcript Directory.apply Directory.reply ∅ relocation =
      [.done, .done, .done, .matched false, .dropped 1, .removed none] ∧
    (relocation.foldl apply empty).lookup "a" = some (targetAt 2) ∧
    (relocation.foldl Directory.apply ∅)["b"]? = none := by
  obtain ⟨hreplies, ⟨hlookup, -⟩, hlast, -⟩ := agrees_with_directory relocation
  refine ⟨hreplies.symm.trans (by decide +kernel), ?_, (hlookup "b").symm.trans (by decide +kernel)⟩
  exact (hlast "a" (targetAt 2)).mpr
    ⟨[.put "b" (targetAt 1), .put "a" (targetAt 1)],
      [.removeEndpoint "a" (targetAt 1).endpoint, .retain ["a", "c"], .remove "c"], rfl, by decide⟩

end Registry

end Rescan.Topology
