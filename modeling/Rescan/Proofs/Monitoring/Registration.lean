import Rescan.Proofs.Debounce.Attributed
import Rescan.Proofs.Settings.Check
import Rescan.Roster

/-! # Settings that pass can be run

Three tables speak of kinds: the names that settings may use, the types by the names of their
kinds, and the titles of these types. They agree, so that a kind that passes the check of the
settings is registered, under the same name and with two tasks, and any other one is refused and
registers nothing. A debouncer with settings that passed starts, and its ticks are an interval
apart that is not empty.
-/

namespace Rescan

open Rescan.Debounce (Debouncer Loop Move Ticker)
open Rescan.Resource (Fault Kind ObjectType)
open Rescan.Telemetry (Meter)
open Rescan.Topology (Registry)

namespace Resource

theorem Kind.mem_watched_of_ofSetting {setting : String} {kind : Kind}
    (h : ofSetting setting = .ok kind) : kind.name ∈ watched := by
  unfold ofSetting at h
  obtain ⟨named, _, h⟩ := exists_of_bind_eq_ok h
  split at h
  next hwatched =>
    cases h
    exact List.contains_iff_mem.mp hwatched
  · cases h

/-- Every name that settings may use belongs to a type, whose title names the same kind. -/
theorem ObjectType.exists_of_mem_watched {kind : Kind} (hwatched : kind.name ∈ Kind.watched) :
    ∃ type, ofKind? kind = some type ∧ type.kind = .ok kind := by
  obtain ⟨name⟩ := kind
  simp only [Kind.watched, List.mem_cons, List.not_mem_nil, or_false] at hwatched
  rcases hwatched with rfl | rfl | rfl | rfl | rfl | rfl | rfl | rfl
  · exact ⟨.pod, rfl, by decide +kernel⟩
  · exact ⟨.deployment, rfl, by decide +kernel⟩
  · exact ⟨.daemonSet, rfl, by decide +kernel⟩
  · exact ⟨.statefulSet, rfl, by decide +kernel⟩
  · exact ⟨.replicaSet, rfl, by decide +kernel⟩
  · exact ⟨.job, rfl, by decide +kernel⟩
  · exact ⟨.cronJob, rfl, by decide +kernel⟩
  · exact ⟨.node, rfl, by decide +kernel⟩

end Resource

theorem Settings.isWatchable_iff (setting : String) :
    isWatchable setting = true ↔ ∃ kind, Kind.ofSetting setting = .ok kind := by
  unfold isWatchable
  cases Kind.ofSetting setting <;> simp [Except.isOk, Except.toBool]

namespace Roster

section Register

variable {roster : Roster} {setting : String}

/-- The two tasks for the objects of a kind. -/
def tasksOf (kind : Kind) : List Runnable := [.monitor kind, .watch kind]

/-- A kind is registered as it is read from the setting, with its two tasks at the end. -/
theorem register_of_ok {kind : Kind} (h : Kind.ofSetting setting = .ok kind) :
    roster.register setting = (⟨roster.runnables ++ tasksOf kind⟩, .ok kind) := by
  obtain ⟨type, htype, hkind⟩ :=
    ObjectType.exists_of_mem_watched (Kind.mem_watched_of_ofSetting h)
  simp only [register, h, htype, enlist, hkind, add, tasksOf, List.append_assoc,
    List.cons_append, List.nil_append]

theorem register_of_error {fault : Fault} (h : Kind.ofSetting setting = .error fault) :
    roster.register setting = (roster, .error fault) := by
  simp only [register, h]

/-- A registration fails just if the check of settings does not know the kind. -/
theorem register_fails_iff :
    (∃ fault, (roster.register setting).2 = .error fault) ↔
      Settings.isWatchable setting = false := by
  rw [← Bool.not_eq_true, Settings.isWatchable_iff]
  cases h : Kind.ofSetting setting with
  | error fault => simp [register_of_error h]
  | ok kind => simp [register_of_ok h]

theorem register_eq_self_of_fails {fault : Fault}
    (hfails : (roster.register setting).2 = .error fault) :
    (roster.register setting).1 = roster := by
  cases h : Kind.ofSetting setting with
  | error _ => rw [register_of_error h]
  | ok kind =>
      rw [register_of_ok h] at hfails
      cases hfails

end Register

theorem registerAll_concat (roster : Roster) (settings : List String) (setting : String) :
    roster.registerAll (settings ++ [setting]) =
      (((roster.registerAll settings).1.register setting).1,
        (roster.registerAll settings).2 ++
          [((roster.registerAll settings).1.register setting).2]) := by
  simp only [registerAll, List.foldl_append]
  rfl

/-- Known kinds are all registered, in order and each with its two tasks. -/
theorem registerAll_of_watchable (roster : Roster) {settings : List String}
    (hknown : ∀ setting ∈ settings, Settings.isWatchable setting = true) :
    ∃ kinds : List Kind, settings.map Kind.ofSetting = kinds.map .ok ∧
      roster.registerAll settings =
        (⟨roster.runnables ++ kinds.flatMap tasksOf⟩, kinds.map .ok) := by
  induction settings using List.reverseRecOn with
  | nil => exact ⟨[], rfl, by simp [registerAll]⟩
  | append_singleton settings setting ih =>
      obtain ⟨kinds, hread, hall⟩ := ih fun other hother =>
        hknown other (List.mem_append_left _ hother)
      obtain ⟨kind, hkind⟩ := (Settings.isWatchable_iff setting).mp (hknown setting (by simp))
      refine ⟨kinds ++ [kind], by simp [hread, hkind], ?_⟩
      rw [registerAll_concat, hall, register_of_ok hkind]
      simp

end Roster

/-! ## What passes the check can be run -/

/-- A debouncer whose settings pass their check is never refused for them, and as long as it is
uninitialized it starts. -/
theorem Debounce.Debouncer.start_of_check {debouncer : Debouncer}
    (hcheck : debouncer.settings.check = .ok ()) :
    (∀ now attribution fault,
      debouncer.start now attribution ≠ .error (.invalidSettings fault)) ∧
    (debouncer.queue.phase = .uninitialized → ∀ now attribution, ∃ started,
      debouncer.start now attribution = .ok started ∧ started.loop =
        .idle attribution (Ticker.starting now debouncer.settings.tickIntervalMs)) := by
  refine ⟨fun now attribution fault hrefused => ?_, fun hphase now attribution => ?_⟩
  · rw [Debouncer.start_eq_invalidSettings_iff, hcheck] at hrefused
    cases hrefused
  · rcases debouncer.start_cases now attribution with
      ⟨fault, hfault, _⟩ | ⟨_, hstarted, _⟩ | ⟨_, _, started, hstart⟩
    · rw [hcheck] at hfault
      cases hfault
    · exact absurd hphase hstarted
    · exact ⟨started, hstart, by rw [(Debouncer.start_eq_ok hstart).2.2.2.1]⟩

namespace Settings

/-- Beside kinds that pass the check another one decides about it. -/
theorem check_with_setting {settings : Settings} (hcheck : settings.check = .ok ())
    {setting : String} {kinds : List String} (hmem : setting ∈ kinds)
    (hothers : ∀ other ∈ kinds, other = setting ∨ other ∈ settings.monitor.kinds) :
    ({ settings with monitor := { settings.monitor with kinds } } : Settings).check =
      if isWatchable setting then .ok () else .error (unknownKind setting) := by
  obtain ⟨_, _, hmonitor, _⟩ := of_check_eq_ok hcheck
  have hknown := (checkKinds_eq_ok_iff _).mp (Monitor.of_check_eq_ok hmonitor).2.1
  have hrest : ∀ other ∈ kinds, other = setting ∨ isWatchable other = true :=
    fun other hother => (hothers other hother).imp_right (hknown other)
  rw [check_with_kinds hcheck (List.ne_nil_of_mem hmem)]
  cases hwatchable : isWatchable setting with
  | false => exact checkKinds_eq_error hmem hwatchable hrest
  | true =>
      refine (checkKinds_eq_ok_iff kinds).mpr fun other hother => ?_
      rcases hrest other hother with rfl | hother
      · exact hwatchable
      · exact hother

/-- Take settings that pass their check. Each of their kinds, in order, is registered as the kind
that it is read as and adds two tasks under the names of that kind, so that all of them together
add twice as many tasks as there are entries. A debouncer with their section is never refused for
its settings: as long as it is uninitialized it starts, and its loop always ticks at their
interval, which is not empty. In return, a kind fails to be registered just if the settings are
refused once it is among their kinds; then it adds no task and is the kind that is told. -/
theorem checked_settings_can_be_run {settings : Settings} (hcheck : settings.check = .ok ()) :
    (∀ first setting last, settings.monitor.kinds = first ++ setting :: last →
      let roster := (Roster.registerAll {} first).1
      ∃ kind, Kind.ofSetting setting = .ok kind ∧ (roster.register setting).2 = .ok kind ∧
        (roster.register setting).1.runnables.map Runnable.name =
          roster.runnables.map Runnable.name ++
            ["resource-monitor/" ++ kind.name, "watch/" ++ kind.name]) ∧
    (Roster.registerAll {} settings.monitor.kinds).2 =
      settings.monitor.kinds.map Kind.ofSetting ∧
    (Roster.registerAll {} settings.monitor.kinds).1.size = 2 * settings.monitor.kinds.length ∧
    (∀ (registry : Registry) (meter : Meter) (moves : List Move),
      let debouncer := (Debouncer.new settings.debouncer registry meter).run moves
      (∀ now attribution fault,
        debouncer.start now attribution ≠ .error (.invalidSettings fault)) ∧
      (debouncer.queue.phase = .uninitialized → ∀ now attribution, ∃ started,
        debouncer.start now attribution = .ok started ∧ started.loop =
          .idle attribution (Ticker.starting now settings.debouncer.tickIntervalMs)) ∧
      ∀ ticker ∈ debouncer.loop.ticker?,
        ticker.interval = settings.debouncer.tickIntervalMs ∧ 0 < ticker.interval) ∧
    ∀ (roster : Roster) (setting : String) (kinds : List String), setting ∈ kinds →
      (∀ other ∈ kinds, other = setting ∨ other ∈ settings.monitor.kinds) →
      let changed : Settings := { settings with monitor := { settings.monitor with kinds } }
      ((∃ fault, (roster.register setting).2 = .error fault) ↔
        ∃ fault, changed.check = .error fault) ∧
      ∀ fault, (roster.register setting).2 = .error fault →
        (roster.register setting).1 = roster ∧ changed.check = .error (unknownKind setting) := by
  obtain ⟨hdebouncer, _, hmonitor, _⟩ := of_check_eq_ok hcheck
  have hknown := (checkKinds_eq_ok_iff _).mp (Monitor.of_check_eq_ok hmonitor).2.1
  refine ⟨fun first setting last hkinds => ?_, ?_, ?_, fun registry meter moves => ?_,
    fun roster setting kinds hmem hothers => ?_⟩
  · intro roster
    obtain ⟨kind, hread⟩ := (isWatchable_iff setting).mp (hknown setting (by simp [hkinds]))
    refine ⟨kind, hread, ?_, ?_⟩
    · rw [Roster.register_of_ok hread]
    · rw [Roster.register_of_ok hread]
      exact List.map_append
  · obtain ⟨kinds, hread, hall⟩ := Roster.registerAll_of_watchable {} hknown
    rw [hall, hread]
  · obtain ⟨kinds, hread, hall⟩ := Roster.registerAll_of_watchable {} hknown
    have hlength : settings.monitor.kinds.length = kinds.length := by
      simpa using congrArg List.length hread
    rw [hall, hlength]
    simp [Roster.size, Roster.tasksOf, Nat.mul_comm]
  · intro debouncer
    have hsettings : debouncer.settings = settings.debouncer := Debouncer.run_settings _ moves
    have hstart := Debouncer.start_of_check (hsettings ▸ hdebouncer)
    rw [hsettings] at hstart
    refine ⟨hstart.1, hstart.2, fun ticker hticker => ?_⟩
    have hinterval : ticker.interval = settings.debouncer.tickIntervalMs :=
      Debouncer.ticker_interval_run rfl moves hticker
    refine ⟨hinterval, ?_⟩
    rw [hinterval]
    exact Nat.pos_of_ne_zero (Debouncer.of_check_eq_ok hdebouncer).1
  · intro changed
    have hchanged : changed.check = _ := check_with_setting hcheck hmem hothers
    rw [Roster.register_fails_iff, hchanged]
    cases hwatchable : isWatchable setting with
    | false =>
        refine ⟨iff_of_true rfl ⟨_, rfl⟩, fun fault hfails => ⟨?_, rfl⟩⟩
        exact Roster.register_eq_self_of_fails hfails
    | true =>
        refine ⟨iff_of_false (by simp) (by simp), fun fault hfails => ?_⟩
        have hunknown := Roster.register_fails_iff.mp ⟨fault, hfails⟩
        rw [hwatchable] at hunknown
        cases hunknown

/-- Settings that name a kind twice and spell kinds in several ways. -/
def unevenKinds : Settings :=
  { monitor := { kinds := [" Pod", "pod", "CRONJOB\t", "node"] } }

/-- The kinds are registered as often as they are named, a kind that no type belongs to is refused
like the settings that name it, and the debouncer is started. -/
theorem checked_settings_can_be_run_unevenKinds :
    (Roster.registerAll {} unevenKinds.monitor.kinds).2 =
      [.ok ⟨"pod"⟩, .ok ⟨"pod"⟩, .ok ⟨"cronjob"⟩, .ok ⟨"node"⟩] ∧
    (Roster.registerAll {} unevenKinds.monitor.kinds).1.size = 8 ∧
    (∃ started, (Debouncer.new unevenKinds.debouncer .empty {}).start 0 .none = .ok started ∧
      started.loop = .idle .none ⟨5000, 5000⟩) ∧
    (Roster.register {} "widget").1 = {} ∧
    ({ unevenKinds with monitor := { unevenKinds.monitor with
        kinds := ["pod", "widget"] } } : Settings).check = .error (unknownKind "widget") := by
  have hcheck : unevenKinds.check = .ok () := by decide +kernel
  obtain ⟨_, hresults, hsize, hdebouncer, hrefused⟩ := checked_settings_can_be_run hcheck
  have hfails : (Roster.register {} "widget").2 = .error (.unknownKind "widget") := by
    decide +kernel
  have hothers : ∀ other ∈ ["pod", "widget"],
      other = "widget" ∨ other ∈ unevenKinds.monitor.kinds := by decide
  obtain ⟨hunchanged, herror⟩ :=
    (hrefused {} "widget" ["pod", "widget"] (by decide) hothers).2 _ hfails
  refine ⟨?_, hsize, (hdebouncer .empty {} []).2.1 rfl 0 .none, hunchanged, herror⟩
  rw [hresults]
  decide +kernel

end Settings

end Rescan
