import Rescan.Settings.Check

/-! # What the check of settings accepts

The check passes just if every section passes its own, and each section asks for what its fields
must be. Of the kinds every one must be known; the first one that is not is told.
-/

namespace Rescan

theorem exists_of_bind_eq_ok {ε α β : Type} {x : Except ε α} {f : α → Except ε β} {b : β}
    (h : (x >>= f) = .ok b) : ∃ a, x = .ok a ∧ f a = .ok b := by
  cases x with
  | error fault => cases h
  | ok a => exact ⟨a, rfl, h⟩

namespace Settings

theorem of_ensure_eq_ok {condition : Bool} {fault : Fault} (h : ensure condition fault = .ok ()) :
    condition = true := by
  unfold ensure at h
  split at h
  · assumption
  · cases h

theorem Debouncer.of_check_eq_ok {settings : Debouncer} (hcheck : settings.check = .ok ()) :
    settings.tickIntervalMs ≠ 0 ∧ settings.maxConcurrentDispatches ≠ 0 := by
  unfold Debouncer.check at hcheck
  obtain ⟨_, hinterval, hlimit⟩ := exists_of_bind_eq_ok hcheck
  exact ⟨by simpa using of_ensure_eq_ok hinterval, by simpa using of_ensure_eq_ok hlimit⟩

theorem Dispatch.of_check_eq_ok {settings : Dispatch} (hcheck : settings.check = .ok ()) :
    settings.requestTimeoutSecs ≠ 0 ∧ settings.scanPath.toList.head? = some '/' := by
  unfold Dispatch.check at hcheck
  obtain ⟨_, htimeout, hpath⟩ := exists_of_bind_eq_ok hcheck
  exact ⟨by simpa using of_ensure_eq_ok htimeout, by simpa using of_ensure_eq_ok hpath⟩

/-- The kinds pass just if each of them is known. -/
theorem checkKinds_eq_ok_iff (kinds : List String) :
    checkKinds kinds = .ok () ↔ ∀ kind ∈ kinds, isWatchable kind = true := by
  unfold checkKinds
  split
  next kind hfound =>
    have hunknown := List.find?_some hfound
    have hmem := List.mem_of_find?_eq_some hfound
    refine iff_of_false (by simp) fun hall => ?_
    rw [hall kind hmem] at hunknown
    cases hunknown
  next hnone =>
    refine iff_of_true rfl fun kind hmem => ?_
    simpa using List.find?_eq_none.mp hnone kind hmem

/-- The first kind that is not known is told. -/
theorem checkKinds_eq_error {kinds : List String} {kind : String} (hmem : kind ∈ kinds)
    (hunknown : isWatchable kind = false)
    (hothers : ∀ other ∈ kinds, other = kind ∨ isWatchable other = true) :
    checkKinds kinds = .error (unknownKind kind) := by
  unfold checkKinds
  split
  next found hfound =>
    have hnot := List.find?_some hfound
    rcases hothers found (List.mem_of_find?_eq_some hfound) with rfl | hknown
    · rfl
    · rw [hknown] at hnot
      cases hnot
  next hnone =>
    have := List.find?_eq_none.mp hnone kind hmem
    rw [hunknown] at this
    exact absurd rfl this

theorem Monitor.of_check_eq_ok {settings : Monitor} (hcheck : settings.check = .ok ()) :
    settings.kinds ≠ [] ∧ checkKinds settings.kinds = .ok () ∧
      ensure (!settings.identityNamespace.isEmpty) (.missingField "monitor.identity_namespace") =
        .ok () := by
  unfold Monitor.check at hcheck
  obtain ⟨_, hsome, hrest⟩ := exists_of_bind_eq_ok hcheck
  obtain ⟨_, hkinds, hidentity⟩ := exists_of_bind_eq_ok hrest
  exact ⟨by simpa using of_ensure_eq_ok hsome, hkinds, hidentity⟩

/-- Settings pass only if all their sections do. -/
theorem of_check_eq_ok {settings : Settings} (hcheck : settings.check = .ok ()) :
    settings.debouncer.check = .ok () ∧ settings.dispatch.check = .ok () ∧
      settings.monitor.check = .ok () ∧ settings.scanApi.check = .ok () := by
  unfold check at hcheck
  obtain ⟨_, hdebouncer, hrest⟩ := exists_of_bind_eq_ok hcheck
  obtain ⟨_, hdispatch, hrest⟩ := exists_of_bind_eq_ok hrest
  obtain ⟨_, hmonitor, hscanApi⟩ := exists_of_bind_eq_ok hrest
  exact ⟨hdebouncer, hdispatch, hmonitor, hscanApi⟩

/-- Settings that pass do so with other kinds just if these are known, and else are refused for
them, as long as there are any. -/
theorem check_with_kinds {settings : Settings} (hcheck : settings.check = .ok ())
    {kinds : List String} (hsome : kinds ≠ []) :
    ({ settings with monitor := { settings.monitor with kinds } } : Settings).check =
      checkKinds kinds := by
  obtain ⟨hdebouncer, hdispatch, hmonitor, hscanApi⟩ := of_check_eq_ok hcheck
  obtain ⟨_, _, hidentity⟩ := Monitor.of_check_eq_ok hmonitor
  have hnonempty : ensure (!kinds.isEmpty)
      (.invalidValue "monitor.kinds" "at least one resource kind must be watched") = .ok () := by
    cases kinds with
    | nil => exact absurd rfl hsome
    | cons kind kinds => rfl
  simp only [check, Monitor.check, hdebouncer, hdispatch, hscanApi, hnonempty, hidentity]
  cases checkKinds kinds <;> rfl

end Settings

end Rescan
