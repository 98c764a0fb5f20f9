import Rescan.Settings.Basic

/-! # The check of settings

Settings are refused with the first fault found, section by section and field by field.
-/

namespace Rescan.Settings

/-- Refuses with a fault unless a condition holds. -/
def ensure (condition : Bool) (fault : Fault) : Except Fault Unit :=
  if condition then .ok () else .error fault

/-- The check of the settings of the debouncer. -/
def Debouncer.check (settings : Debouncer) : Except Fault Unit := do
  ensure (settings.tickIntervalMs != 0)
    (.invalidValue "debouncer.tick_interval_ms" "must be greater than 0")
  ensure (settings.maxConcurrentDispatches != 0)
    (.invalidValue "debouncer.max_concurrent_dispatches" "must allow at least 1 dispatch")

def Dispatch.check (settings : Dispatch) : Except Fault Unit := do
  ensure (settings.requestTimeoutSecs != 0)
    (.invalidValue "dispatch.request_timeout_secs" "must be greater than 0")
  ensure (settings.scanPath.toList.head? == some '/')
    (.invalidValue "dispatch.scan_path" "must start with '/'")

/-- The fault of a kind that cannot be watched. -/
def unknownKind (kind : String) : Fault :=
  .invalidValue "monitor.kinds"
    ("unknown kind '" ++ kind ++ "'. Valid options: " ++
      ", ".intercalate Resource.Kind.watched)

/-- Whether a text names a kind that can be watched. -/
def isWatchable (kind : String) : Bool := (Resource.Kind.ofSetting kind).isOk

def checkKinds (kinds : List String) : Except Fault Unit :=
  match kinds.find? fun kind => !isWatchable kind with
  | some kind => .error (unknownKind kind)
  | none => .ok ()

def Monitor.check (settings : Monitor) : Except Fault Unit := do
  ensure (!settings.kinds.isEmpty)
    (.invalidValue "monitor.kinds" "at least one resource kind must be watched")
  checkKinds settings.kinds
  ensure (!settings.identityNamespace.isEmpty) (.missingField "monitor.identity_namespace")

def ScanApi.check (settings : ScanApi) : Except Fault Unit :=
  ensure (!settings.labelSelector.isEmpty) (.missingField "scan_api.label_selector")

def check (settings : Settings) : Except Fault Unit := do
  settings.debouncer.check
  settings.dispatch.check
  settings.monitor.check
  settings.scanApi.check

end Rescan.Settings
