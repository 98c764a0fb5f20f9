import Mathlib.Data.List.Sort
import Rescan.Topology.Registry

/-! # Lookups in the registry

A registry is known by what is looked up in it, and so is what each edit does to it.
-/

namespace Rescan.Topology.Registry

/-- An element with only certain ones after it is the last one, or the last one is such and the
others hold the element with only such ones after it. -/
theorem exists_split_concat_iff {α : Type} {list : List α} {a b : α} {p : α → Prop} :
    (∃ first last, list ++ [a] = first ++ b :: last ∧ ∀ later ∈ last, p later) ↔
      a = b ∨ (∃ first last, list = first ++ b :: last ∧ ∀ later ∈ last, p later) ∧ p a := by
  constructor
  · rintro ⟨first, last, hsplit, hlast⟩
    rcases last.eq_nil_or_concat with rfl | ⟨last, later, rfl⟩
    · obtain ⟨-, hsame⟩ := List.append_inj' hsplit rfl
      exact Or.inl (List.singleton_inj.mp hsame)
    · simp only [List.concat_eq_append] at hsplit hlast
      rw [← List.cons_append, ← List.append_assoc] at hsplit
      obtain ⟨rfl, hsame⟩ := List.append_inj' hsplit rfl
      rw [List.singleton_inj.mp hsame]
      exact Or.inr ⟨⟨first, last, rfl, fun other hother =>
        hlast other (List.mem_append_left _ hother)⟩, hlast later (by simp)⟩
  · rintro (rfl | ⟨⟨first, last, rfl, hlast⟩, ha⟩)
    · exact ⟨list, [], rfl, by simp⟩
    · refine ⟨first, last ++ [a], by simp, fun later hlater => ?_⟩
      rcases List.mem_append.mp hlater with hlater | hlater
      · exact hlast later hlater
      · exact List.mem_singleton.mp hlater ▸ ha

theorem find?_place (ns : String) (target : Target) (entries : List (String × Target))
    (other : String) :
    (place ns target entries).find? (fun entry => entry.1 == other) =
      if other = ns then some (ns, target) else entries.find? (fun entry => entry.1 == other) := by
  by_cases hother : other = ns
  · subst other
    rw [if_pos rfl]
    induction entries with
    | nil => simp [place]
    | cons first rest ih =>
        simp only [place]
        split
        · simp
        · split
          · simp
          next hne =>
            rw [List.find?_cons_of_neg (by simpa using Ne.symm hne)]
            exact ih
  · rw [if_neg hother]
    induction entries with
    | nil => simp [place, Ne.symm hother]
    | cons first rest ih =>
        simp only [place]
        split
        · simp [Ne.symm hother]
        · split
          next heq => simp [← heq, Ne.symm hother]
          · rw [List.find?_cons, List.find?_cons, ih]

theorem find?_of_mem {entries : List (String × Target)}
    (hsorted : entries.Pairwise (fun a b => a.1 < b.1)) {ns : String} {target : Target}
    (hmem : (ns, target) ∈ entries) :
    entries.find? (fun entry => entry.1 == ns) = some (ns, target) := by
  induction entries with
  | nil => cases hmem
  | cons first rest ih =>
      obtain ⟨hfirst, hrest⟩ := List.pairwise_cons.mp hsorted
      rcases List.mem_cons.mp hmem with rfl | hmem
      · simp
      · have hlt : first.1 < ns := hfirst (ns, target) hmem
        rw [List.find?_cons_of_neg (by simpa using String.ne_of_lt hlt)]
        exact ih hrest hmem

/-- The entries of a registry are what is looked up in it. -/
theorem lookup_eq_some_iff {registry : Registry} {ns : String} {target : Target} :
    registry.lookup ns = some target ↔ (ns, target) ∈ registry.entries := by
  rw [lookup, Option.map_eq_some_iff]
  constructor
  · rintro ⟨⟨name, found⟩, hfind, rfl⟩
    have hname := List.find?_some hfind
    rw [beq_iff_eq] at hname
    subst hname
    exact List.mem_of_find?_eq_some hfind
  · intro hmem
    exact ⟨(ns, target), find?_of_mem registry.sorted hmem, rfl⟩

/-- Registries in which the same is looked up are the same. -/
theorem ext_lookup {first second : Registry}
    (hlookup : ∀ ns, first.lookup ns = second.lookup ns) : first = second := by
  have hmem (entry : String × Target) : entry ∈ first.entries ↔ entry ∈ second.entries := by
    rw [← lookup_eq_some_iff, hlookup, lookup_eq_some_iff]
  have hentries := first.sorted.eq_of_mem_iff second.sorted hmem
  cases first
  cases second
  cases hentries
  rfl

theorem mem_namespaces_iff {registry : Registry} {ns : String} :
    ns ∈ registry.namespaces ↔ (registry.lookup ns).isSome := by
  rw [namespaces, List.mem_map, Option.isSome_iff_exists]
  constructor
  · rintro ⟨⟨name, target⟩, hmem, rfl⟩
    exact ⟨target, lookup_eq_some_iff.mpr hmem⟩
  · rintro ⟨target, hlookup⟩
    exact ⟨(ns, target), lookup_eq_some_iff.mp hlookup, rfl⟩

/-! ## Edits -/

@[simp] theorem lookup_empty (ns : String) : empty.lookup ns = none := rfl

@[simp] theorem lookup_put (registry : Registry) (ns other : String) (target : Target) :
    (registry.put ns target).lookup other =
      if other = ns then some target else registry.lookup other := by
  simp only [lookup, put, find?_place]
  split <;> rfl

theorem lookup_filter (registry : Registry) (keep : String × Target → Bool) (ns : String) :
    (registry.filter keep).lookup ns =
      (registry.lookup ns).filter fun target => keep (ns, target) := by
  ext target
  simp only [Option.filter_eq_some_iff, lookup_eq_some_iff, filter, List.mem_filter]

@[simp] theorem lookup_remove (registry : Registry) (ns other : String) :
    (registry.remove ns).lookup other = if other = ns then none else registry.lookup other := by
  rw [remove, lookup_filter]
  by_cases hother : other = ns
  · cases registry.lookup other <;> simp [hother]
  · cases registry.lookup other <;> simp [hother]

@[simp] theorem lookup_removeEndpoint (registry : Registry) (ns other : String) (endpoint : Url) :
    (registry.removeEndpoint ns endpoint).lookup other =
      (registry.lookup other).filter fun target =>
        !(other == ns && target.endpoint == endpoint) := lookup_filter ..

@[simp] theorem lookup_retain (registry : Registry) (keep : List String) (ns : String) :
    (registry.retain keep).lookup ns = if ns ∈ keep then registry.lookup ns else none := by
  rw [retain, lookup_filter]
  by_cases hmem : ns ∈ keep
  · cases registry.lookup ns <;> simp [hmem]
  · cases registry.lookup ns <;> simp [hmem]

namespace Edit

/-- Whether an edit is about a namespace. -/
def concerns (ns : String) : Edit → Bool
  | .put name _ | .remove name | .removeEndpoint name _ => name == ns
  | .retain keep => !keep.contains ns

/-- Whether an edit ends that a namespace has a target, in that it drops it or puts one in its
place. -/
def ends (ns : String) (target : Target) : Edit → Bool
  | .removeEndpoint name endpoint => name == ns && target.endpoint == endpoint
  | change => change.concerns ns

end Edit

section Edits

variable {registry : Registry} {change : Edit} {ns : String}

/-- What is looked up after an edit was put there by the edit, or was there and is not ended. -/
theorem lookup_apply_iff {target : Target} :
    (registry.apply change).lookup ns = some target ↔
      change = .put ns target ∨
        registry.lookup ns = some target ∧ change.ends ns target = false := by
  cases change with
  | put name _ | remove name =>
      by_cases hname : name = ns
      · simp [apply, Edit.ends, Edit.concerns, hname]
      · simp [apply, Edit.ends, Edit.concerns, hname, Ne.symm hname]
  | removeEndpoint name endpoint =>
      by_cases hname : name = ns
      · simp [apply, Edit.ends, hname]
      · simp [apply, Edit.ends, hname, Ne.symm hname]
  | retain keep => simp [apply, Edit.ends, Edit.concerns, and_comm]

theorem lookup_apply_of_not_concerns (hconcerns : change.concerns ns = false) :
    (registry.apply change).lookup ns = registry.lookup ns := by
  refine Option.ext fun target => ?_
  have hput : change ≠ .put ns target := by
    rintro rfl
    simp [Edit.concerns] at hconcerns
  have hends : change.ends ns target = false := by
    cases change <;> simp_all [Edit.concerns, Edit.ends]
  simp [lookup_apply_iff, hput, hends]

end Edits

theorem hasEndpoint_iff {registry : Registry} {ns : String} {endpoint : Url} :
    registry.hasEndpoint ns endpoint = true ↔
      ∃ target, registry.lookup ns = some target ∧ target.endpoint = endpoint := by
  simp only [hasEndpoint, Option.any_eq_true, beq_iff_eq]

/-- A target with the given endpoint is removed as it is without a condition. -/
theorem removeEndpoint_of_hasEndpoint {registry : Registry} {ns : String} {endpoint : Url}
    (hmatch : registry.hasEndpoint ns endpoint = true) :
    registry.removeEndpoint ns endpoint = registry.remove ns := by
  refine ext_lookup fun other => ?_
  rw [lookup_removeEndpoint, lookup_remove]
  by_cases hother : other = ns
  · subst other
    obtain ⟨target, hlookup, hendpoint⟩ := hasEndpoint_iff.mp hmatch
    simp [hlookup, hendpoint]
  · cases registry.lookup other <;> simp [hother]

/-- An edit that is not reported leaves the registry as it is. -/
theorem apply_of_not_reports {registry : Registry} {change : Edit}
    (hsilent : registry.reports change = false) : registry.apply change = registry := by
  cases change with
  | put ns target => cases hsilent
  | remove ns => cases hsilent
  | retain keep => cases hsilent
  | removeEndpoint ns endpoint =>
      refine ext_lookup fun other => ?_
      rw [apply, lookup_removeEndpoint]
      by_cases hother : other = ns
      · subst other
        cases hlookup : registry.lookup ns with
        | none => rfl
        | some target =>
            simp only [reports, hasEndpoint, hlookup, Option.any_some] at hsilent
            simp [hsilent]
      · cases registry.lookup other <;> simp [hother]

end Rescan.Topology.Registry
