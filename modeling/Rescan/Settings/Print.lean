import Rescan.Settings.Basic
import Rescan.Toml.Writer

/-! # Settings as a TOML document

The six sections are written in order with all their fields; an absent optional value is left
out. A number that does not fit into a TOML document makes the whole unwritable.
-/

namespace Rescan.Settings

def tables? (settings : Settings) : Option (List String) := do
  let tick ← Toml.writeNat? settings.debouncer.tickIntervalMs
  let most ← Toml.writeNat? settings.debouncer.maxConcurrentDispatches
  let timeout ← Toml.writeNat? settings.dispatch.requestTimeoutSecs
  let text (s : String) : Option String := some (Toml.writeText s)
  return [
    Toml.writeTable "debouncer"
      [("tick_interval_ms", some tick), ("max_concurrent_dispatches", some most)],
    Toml.writeTable "dispatch"
      [("request_timeout_secs", some timeout), ("scan_path", text settings.dispatch.scanPath),
        ("token", settings.dispatch.token.map Toml.writeText)],
    Toml.writeTable "monitor"
      [("kinds", some (Toml.writeTexts settings.monitor.kinds)),
        ("identity_namespace", text settings.monitor.identityNamespace),
        ("managed_by_prefix", text settings.monitor.managedByPrefix)],
    Toml.writeTable "scan_api"
      [("label_selector", text settings.scanApi.labelSelector),
        ("port", settings.scanApi.port.map fun port => Text.decimal port.toNat),
        ("cluster_scope_namespace",
          settings.scanApi.clusterScopeNamespace.map Toml.writeText)],
    Toml.writeTable "health"
      [("enabled", some (Toml.writeFlag settings.health.enabled)),
        ("bind_address", text settings.health.bindAddress.render)],
    Toml.writeTable "logging"
      [("level", text settings.logging.level), ("format", text settings.logging.format)]]

def toToml? (settings : Settings) : Option String :=
  settings.tables?.map ("\n".intercalate ·)

def shown? (settings : Settings) : Option String := settings.redacted.toToml?

end Rescan.Settings
