import Rescan.Json.Basic
import Rescan.Settings.Basic
import Rescan.Toml.Basic

/-! # Settings from structured text

Settings are read from a tree of values in the same way whatever the tree was written in. The
tree and its sections are tables, in which unknown names are passed over, or lists of their
parts in order. What is missing takes its default; what is there must have the right form.
-/

namespace Rescan.Settings

/-- A value that settings can be read from. -/
inductive Tree where
  | null
  | flag (value : Bool)
  | whole (n : Int)
  | text (value : String)
  | list (items : List Tree)
  | table (entries : List (String × Tree))
  /-- A value that no setting can have. -/
  | strange

namespace Tree

mutual

def ofJson : Json → Tree
  | .null => .null
  | .bool value => .flag value
  | .number (.integer n) => .whole n
  | .number (.inexact _) => .strange
  | .string value => .text value
  | .array items => .list (ofJsonItems items)
  | .object members => .table (ofJsonMembers members)

def ofJsonItems : List Json → List Tree
  | [] => []
  | item :: rest => ofJson item :: ofJsonItems rest

/-- The entries of the members of a JSON object. -/
def ofJsonMembers : List (String × Json) → List (String × Tree)
  | [] => []
  | (name, value) :: rest => (name, ofJson value) :: ofJsonMembers rest

end

mutual

/-- The tree of a TOML value. A moment is a table without known names. -/
def ofToml : Toml.Value → Tree
  | .text cs => .text (String.ofList cs)
  | .integer n => .whole n
  | .float _ => .strange
  | .flag value => .flag value
  | .moment _ => .table []
  | .list items => .list (ofTomlItems items)
  | .table entries => .table (ofTomlEntries entries)

def ofTomlItems : List Toml.Value → List Tree
  | [] => []
  | item :: rest => ofToml item :: ofTomlItems rest

def ofTomlEntries : List (String × Toml.Value) → List (String × Tree)
  | [] => []
  | (name, value) :: rest => (name, ofToml value) :: ofTomlEntries rest

end

def text? : Tree → Option String
  | .text value => some value
  | _ => none

def flag? : Tree → Option Bool
  | .flag value => some value
  | _ => none

def nat? (bound : Nat) : Tree → Option Nat
  | .whole (.ofNat n) => if n ≤ bound then some n else none
  | _ => none

/-- A value that may be absent. -/
def optional? {α : Type} (read : Tree → Option α) : Tree → Option (Option α)
  | .null => some none
  | tree => (read tree).map some

def texts? : Tree → Option (List String)
  | .list items => items.mapM text?
  | _ => none

end Tree

/-- A part that is missing, or the tree that is there for it. -/
abbrev Part := Option Tree

/-- The value of a part: the default for a missing one. -/
def Part.read {α : Type} (part : Part) (read : Tree → Option α) (default : α) : Option α :=
  match part with
  | none => some default
  | some tree => read tree

/-- The last value of a name. -/
def lastOf (name : String) (entries : List (String × Tree)) : Part :=
  (entries.reverse.find? fun entry => entry.1 == name).map (·.2)

/-- The parts of a tree in the order of their names. A list that is longer than the names is
refused unless a surplus is passed over. -/
def parts? (surplus : Bool) (names : List String) : Tree → Option (List Part)
  | .table entries => some (names.map (lastOf · entries))
  | .list items =>
    if surplus || items.length ≤ names.length then
      some ((List.range names.length).map (items[·]?))
    else none
  | _ => none

def Debouncer.ofTree? (surplus : Bool) (tree : Tree) : Option Debouncer := do
  let parts ← parts? surplus ["tick_interval_ms", "max_concurrent_dispatches"] tree
  match parts with
  | [tick, most] =>
    let default : Debouncer := {}
    return ⟨← tick.read (Tree.nat? Text.maxWord) default.tickIntervalMs,
      ← most.read (Tree.nat? Text.maxWord) default.maxConcurrentDispatches⟩
  | _ => none

def Dispatch.ofTree? (surplus : Bool) (tree : Tree) : Option Dispatch := do
  let parts ← parts? surplus ["request_timeout_secs", "scan_path", "token"] tree
  match parts with
  | [timeout, path, token] =>
    let default : Dispatch := {}
    return ⟨← timeout.read (Tree.nat? Text.maxWord) default.requestTimeoutSecs,
      ← path.read Tree.text? default.scanPath,
      ← token.read (Tree.optional? Tree.text?) default.token⟩
  | _ => none

def Monitor.ofTree? (surplus : Bool) (tree : Tree) : Option Monitor := do
  let parts ← parts? surplus ["kinds", "identity_namespace", "managed_by_prefix"] tree
  match parts with
  | [kinds, ns, stem] =>
    let default : Monitor := {}
    return ⟨← kinds.read Tree.texts? default.kinds,
      ← ns.read Tree.text? default.identityNamespace,
      ← stem.read Tree.text? default.managedByPrefix⟩
  | _ => none

def port? (tree : Tree) : Option UInt16 := (tree.nat? Text.maxPort).map UInt16.ofNat

def ScanApi.ofTree? (surplus : Bool) (tree : Tree) : Option ScanApi := do
  let parts ← parts? surplus ["label_selector", "port", "cluster_scope_namespace"] tree
  match parts with
  | [selector, port, ns] =>
    let default : ScanApi := {}
    return ⟨← selector.read Tree.text? default.labelSelector,
      ← port.read (Tree.optional? port?) default.port,
      ← ns.read (Tree.optional? Tree.text?) default.clusterScopeNamespace⟩
  | _ => none

def address? (tree : Tree) : Option Net.SocketAddress :=
  tree.text?.bind Net.SocketAddress.parse?

def Health.ofTree? (surplus : Bool) (tree : Tree) : Option Health := do
  let parts ← parts? surplus ["enabled", "bind_address"] tree
  match parts with
  | [enabled, address] =>
    let default : Health := {}
    return ⟨← enabled.read Tree.flag? default.enabled,
      ← address.read address? default.bindAddress⟩
  | _ => none

def Logging.ofTree? (surplus : Bool) (tree : Tree) : Option Logging := do
  let parts ← parts? surplus ["level", "format"] tree
  match parts with
  | [level, format] =>
    let default : Logging := {}
    return ⟨← level.read Tree.text? default.level, ← format.read Tree.text? default.format⟩
  | _ => none

def sectionNames : List String :=
  ["debouncer", "dispatch", "monitor", "scan_api", "health", "logging"]

def ofTree? (surplus : Bool) (tree : Tree) : Option Settings := do
  let parts ← parts? surplus sectionNames tree
  match parts with
  | [debouncer, dispatch, monitor, scanApi, health, logging] =>
    return ⟨← debouncer.read (Debouncer.ofTree? surplus) {},
      ← dispatch.read (Dispatch.ofTree? surplus) {},
      ← monitor.read (Monitor.ofTree? surplus) {},
      ← scanApi.read (ScanApi.ofTree? surplus) {},
      ← health.read (Health.ofTree? surplus) {},
      ← logging.read (Logging.ofTree? surplus) {}⟩
  | _ => none

def ofJson? (json : Json) : Option Settings := ofTree? false (.ofJson json)

end Rescan.Settings
