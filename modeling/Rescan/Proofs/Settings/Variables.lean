import Mathlib.Data.List.Basic
import Rescan.Proofs.Net.Addresses
import Rescan.Proofs.Text.Utf8
import Rescan.Settings.Environment

/-! # Variables and fields

Each field of the settings has one variable. The environment gives a field the value that the text
of its variable stands for, and only the variables of numbers, of the flag and of the address can
be refused.
-/

namespace Rescan.Settings

/-- The variables, one for each field, in the order in which they are read. -/
inductive Variable where
  | tickInterval
  | maxConcurrentDispatches
  | requestTimeout
  | scanPath
  | token
  | kinds
  | identityNamespace
  | managedByPrefix
  | labelSelector
  | port
  | clusterScopeNamespace
  | healthEnabled
  | bindAddress
  | logLevel
  | logFormat
  deriving DecidableEq, Repr

namespace Variable

def name : Variable → String
  | tickInterval => "SCANWATCH_TICK_INTERVAL_MS"
  | maxConcurrentDispatches => "SCANWATCH_MAX_CONCURRENT_DISPATCHES"
  | requestTimeout => "SCANWATCH_REQUEST_TIMEOUT"
  | scanPath => "SCANWATCH_SCAN_PATH"
  | token => "SCANWATCH_SCAN_API_TOKEN"
  | kinds => "SCANWATCH_KINDS"
  | identityNamespace => "SCANWATCH_IDENTITY_NAMESPACE"
  | managedByPrefix => "SCANWATCH_MANAGED_BY_PREFIX"
  | labelSelector => "SCANWATCH_SCAN_API_SELECTOR"
  | port => "SCANWATCH_SCAN_API_PORT"
  | clusterScopeNamespace => "SCANWATCH_CLUSTER_SCOPE_NAMESPACE"
  | healthEnabled => "SCANWATCH_HEALTH_ENABLED"
  | bindAddress => "SCANWATCH_HEALTH_BIND"
  | logLevel => "SCANWATCH_LOG_LEVEL"
  | logFormat => "SCANWATCH_LOG_FORMAT"

/-- The values of the field of a variable. -/
def Value : Variable → Type
  | tickInterval | maxConcurrentDispatches | requestTimeout => Nat
  | scanPath | identityNamespace | managedByPrefix | labelSelector | logLevel | logFormat => String
  | token | clusterScopeNamespace => Option String
  | kinds => List String
  | port => Option UInt16
  | healthEnabled => Bool
  | bindAddress => Net.SocketAddress

instance : (v : Variable) → DecidableEq v.Value
  | tickInterval | maxConcurrentDispatches | requestTimeout => inferInstanceAs (DecidableEq Nat)
  | scanPath | identityNamespace | managedByPrefix | labelSelector | logLevel | logFormat =>
    inferInstanceAs (DecidableEq String)
  | token | clusterScopeNamespace => inferInstanceAs (DecidableEq (Option String))
  | kinds => inferInstanceAs (DecidableEq (List String))
  | port => inferInstanceAs (DecidableEq (Option UInt16))
  | healthEnabled => inferInstanceAs (DecidableEq Bool)
  | bindAddress => inferInstanceAs (DecidableEq Net.SocketAddress)

/-- The field of a variable. -/
def field : (v : Variable) → Settings → v.Value
  | tickInterval, settings => settings.debouncer.tickIntervalMs
  | maxConcurrentDispatches, settings => settings.debouncer.maxConcurrentDispatches
  | requestTimeout, settings => settings.dispatch.requestTimeoutSecs
  | scanPath, settings => settings.dispatch.scanPath
  | token, settings => settings.dispatch.token
  | kinds, settings => settings.monitor.kinds
  | identityNamespace, settings => settings.monitor.identityNamespace
  | managedByPrefix, settings => settings.monitor.managedByPrefix
  | labelSelector, settings => settings.scanApi.labelSelector
  | port, settings => settings.scanApi.port
  | clusterScopeNamespace, settings => settings.scanApi.clusterScopeNamespace
  | healthEnabled, settings => settings.health.enabled
  | bindAddress, settings => settings.health.bindAddress
  | logLevel, settings => settings.logging.level
  | logFormat, settings => settings.logging.format

/-- The value that a text stands for, if it has the form of the field. -/
def read? : (v : Variable) → String → Option v.Value
  | tickInterval, text | maxConcurrentDispatches, text | requestTimeout, text =>
    Text.readUnsigned? Text.maxWord text
  | scanPath, text | identityNamespace, text | managedByPrefix, text | labelSelector, text
  | logLevel, text | logFormat, text => some text
  | token, text | clusterScopeNamespace, text => some (some text)
  | kinds, text => some (readKinds text)
  | port, text => (Text.readUnsigned? Text.maxPort text).map fun n => some (UInt16.ofNat n)
  | healthEnabled, text => readFlag? text
  | bindAddress, text => Net.SocketAddress.parse? text

/-- The variables whose texts must have a form, in the order in which they are read. -/
def typed : List Variable :=
  [tickInterval, maxConcurrentDispatches, requestTimeout, port, healthEnabled, bindAddress]

theorem exists_read?_of_not_mem_typed {v : Variable} (hv : v ∉ typed) (text : String) :
    ∃ value, v.read? text = some value := by
  cases v
  case tickInterval | maxConcurrentDispatches | requestTimeout | port | healthEnabled |
      bindAddress =>
    exact absurd (by decide) hv
  all_goals exact ⟨_, rfl⟩

theorem name_injective {u v : Variable} (hname : u.name = v.name) : u = v := by
  revert hname
  cases u <;> cases v <;> decide

end Variable

/-- The settings with a given value in each field. -/
def ofFields (value : (v : Variable) → v.Value) : Settings where
  debouncer := ⟨value .tickInterval, value .maxConcurrentDispatches⟩
  dispatch := ⟨value .requestTimeout, value .scanPath, value .token⟩
  monitor := ⟨value .kinds, value .identityNamespace, value .managedByPrefix⟩
  scanApi := ⟨value .labelSelector, value .port, value .clusterScopeNamespace⟩
  health := ⟨value .healthEnabled, value .bindAddress⟩
  logging := ⟨value .logLevel, value .logFormat⟩

@[simp] theorem field_ofFields (value : (v : Variable) → v.Value) (v : Variable) :
    v.field (ofFields value) = value v := by
  cases v <;> rfl

/-- Settings are told by their fields. -/
theorem ext_field {first second : Settings}
    (hfields : ∀ v : Variable, v.field first = v.field second) : first = second :=
  congrArg ofFields (funext hfields)

namespace Environment

/-- The bytes that a variable is set to. -/
def bytes? (env : Environment) (name : String) : Option (List UInt8) :=
  (env.find? fun entry => entry.1 == name).map (·.2)

theorem get?_eq (env : Environment) (name : String) :
    env.get? name = (env.bytes? name).bind Text.Utf8.decode? := by
  rw [get?, bytes?, Option.bind_map]
  rfl

end Environment

namespace Variable

/-- The value that the environment gives to a field: the default unless the variable is set to a
text of the right form. -/
def value (v : Variable) (env : Environment) : v.Value :=
  ((env.get? v.name).bind v.read?).getD (v.field {})

/-- The fault of a variable that is set to a text without the form of its field. -/
def fault? (v : Variable) (env : Environment) : Option EnvironmentFault :=
  match env.get? v.name with
  | none => none
  | some text => if (v.read? text).isNone then some ⟨v.name, text⟩ else none

theorem readForm_eq (v : Variable) (env : Environment) {α : Type} (read : String → Option α)
    {wrap : α → v.Value} (hread : ∀ text, v.read? text = (read text).map wrap) :
    env.readForm read v.name =
      match v.fault? env with
      | some fault => .error fault
      | none => .ok ((env.get? v.name).bind read) := by
  rw [Environment.readForm, fault?]
  cases env.get? v.name with
  | none => rfl
  | some text =>
      dsimp only
      rw [hread]
      cases hform : read text <;> simp [hform]

theorem value_port (env : Environment) :
    value port env =
      ((env.get? port.name).bind (Text.readUnsigned? Text.maxPort)).map UInt16.ofNat := by
  rw [value]
  cases env.get? port.name with
  | none => rfl
  | some text =>
      dsimp only [Option.bind_some, read?]
      cases Text.readUnsigned? Text.maxPort text <;> rfl

end Variable

/-- The settings in the environment: the first variable in the order of reading that has not the
form of its field is refused; else each field has the value of its variable. -/
theorem ofEnvironment_eq (env : Environment) :
    ofEnvironment env =
      match Variable.typed.findSome? (·.fault? env) with
      | some fault => .error fault
      | none => .ok (ofFields fun v => v.value env) := by
  have hself {α : Type} (form : Option α) : form = form.map id := (congrFun Option.map_id form).symm
  have htick := Variable.readForm_eq .tickInterval env (Text.readUnsigned? Text.maxWord)
    fun _ => hself _
  have hmost := Variable.readForm_eq .maxConcurrentDispatches env (Text.readUnsigned? Text.maxWord)
    fun _ => hself _
  have htimeout := Variable.readForm_eq .requestTimeout env (Text.readUnsigned? Text.maxWord)
    fun _ => hself _
  have hport := Variable.readForm_eq .port env (Text.readUnsigned? Text.maxPort) fun _ => rfl
  have henabled := Variable.readForm_eq .healthEnabled env readFlag? fun _ => hself _
  have haddress := Variable.readForm_eq .bindAddress env Net.SocketAddress.parse? fun _ => hself _
  dsimp only [Variable.name] at htick hmost htimeout hport henabled haddress
  rw [ofEnvironment, htick, hmost, htimeout, hport, henabled, haddress]
  simp only [Variable.typed, List.findSome?_cons, List.findSome?_nil]
  -- The first fault ends the reading.
  cases Variable.tickInterval.fault? env with
  | some fault => rfl
  | none =>
  cases Variable.maxConcurrentDispatches.fault? env with
  | some fault => rfl
  | none =>
  cases Variable.requestTimeout.fault? env with
  | some fault => rfl
  | none =>
  cases Variable.port.fault? env with
  | some fault => rfl
  | none =>
  cases Variable.healthEnabled.fault? env with
  | some fault => rfl
  | none =>
  cases Variable.bindAddress.fault? env with
  | some fault => rfl
  | none =>
  refine congrArg Except.ok (ext_field fun v => ?_)
  rw [field_ofFields]
  cases v
  case port => exact (Variable.value_port env).symm
  all_goals
    rw [Variable.value]
    dsimp only [Variable.name, Variable.field]
    generalize env.get? _ = text
    cases text <;> rfl

/-! ## The text of a field -/

theorem splitAtChar_of_not_mem {mark : Char} {cs : List Char} (hmark : mark ∉ cs) :
    splitAtChar mark cs = [cs] := by
  induction cs with
  | nil => rfl
  | cons c rest ih =>
      rw [List.mem_cons, not_or] at hmark
      rw [splitAtChar, if_neg (Ne.symm hmark.1), ih hmark.2]

theorem splitAtChar_append {mark : Char} {cs : List Char} (hmark : mark ∉ cs) (rest : List Char) :
    splitAtChar mark (cs ++ mark :: rest) = cs :: splitAtChar mark rest := by
  induction cs with
  | nil => rw [List.nil_append, splitAtChar, if_pos rfl]
  | cons c cs ih =>
      rw [List.mem_cons, not_or] at hmark
      rw [List.cons_append, splitAtChar, if_neg (Ne.symm hmark.1), ih hmark.2]

/-- Kinds that can be told apart in one text: none is empty, contains a comma or is surrounded by
blanks. -/
def Separable (kinds : List String) : Prop :=
  ∀ kind ∈ kinds, kind ≠ "" ∧ ',' ∉ kind.toList ∧ Text.trim kind = kind

/-- The parts of joined kinds are the kinds. -/
theorem splitAtChar_intercalate {kind : String} {kinds : List String}
    (hkinds : Separable (kind :: kinds)) :
    splitAtChar ',' (",".intercalate (kind :: kinds)).toList =
      (kind :: kinds).map String.toList := by
  induction kinds generalizing kind with
  | nil => simpa using splitAtChar_of_not_mem (hkinds kind List.mem_cons_self).2.1
  | cons next kinds ih =>
      have hnext := ih fun other hmem => hkinds other (List.mem_cons_of_mem _ hmem)
      have hplain := (hkinds kind List.mem_cons_self).2.1
      rw [String.intercalate_cons_cons, String.toList_append, String.toList_append,
        List.append_assoc, List.map_cons, ← hnext]
      exact splitAtChar_append hplain _

/-- Joined kinds are read as the kinds. -/
theorem readKinds_intercalate {kinds : List String} (hkinds : Separable kinds) :
    readKinds (",".intercalate kinds) = kinds := by
  cases kinds with
  | nil => rfl
  | cons kind kinds =>
      rw [readKinds, splitAtChar_intercalate hkinds, List.map_map, List.filter_map]
      have hkept : (kind :: kinds).filter ((fun kind => !kind.isEmpty) ∘
          (fun part => String.ofList (Text.trimWhile Text.isBlank part)) ∘ String.toList) =
          kind :: kinds := by
        refine List.filter_eq_self.mpr fun other hmem => ?_
        obtain ⟨hne, -, htrim⟩ := hkinds other hmem
        rw [Function.comp_apply, Function.comp_apply, ← Text.trim, htrim]
        simpa [String.isEmpty_iff] using hne
      rw [hkept]
      exact (List.map_congr_left fun other hmem => (hkinds other hmem).2.2).trans (List.map_id' _)

namespace Variable

/-- The text that a variable is set to for a value of its field. For an absent value it is not
set. -/
def write? : (v : Variable) → v.Value → Option String
  | tickInterval, n | maxConcurrentDispatches, n | requestTimeout, n => some (Text.decimal n)
  | scanPath, text | identityNamespace, text | managedByPrefix, text | labelSelector, text
  | logLevel, text | logFormat, text => some text
  | token, text? | clusterScopeNamespace, text? => text?
  | kinds, names => some (",".intercalate names)
  | port, number? => number?.map fun number => Text.decimal number.toNat
  | healthEnabled, enabled => some (cond enabled "true" "false")
  | bindAddress, address => some address.render

end Variable

/-- Settings that variables can hold: the numbers fit into 64 bits, and the kinds can be told
apart. -/
structure Expressible (settings : Settings) : Prop where
  tick_le : settings.debouncer.tickIntervalMs ≤ Text.maxWord
  most_le : settings.debouncer.maxConcurrentDispatches ≤ Text.maxWord
  timeout_le : settings.dispatch.requestTimeoutSecs ≤ Text.maxWord
  kinds : Separable settings.monitor.kinds

/-- The text of a field is read as its value. -/
theorem Expressible.read?_write? {settings : Settings} (hsettings : settings.Expressible)
    (v : Variable) {text : String} (htext : v.write? (v.field settings) = some text) :
    v.read? text = some (v.field settings) := by
  cases v
  case tickInterval =>
    cases htext
    exact Text.readUnsigned?_decimal hsettings.tick_le
  case maxConcurrentDispatches =>
    cases htext
    exact Text.readUnsigned?_decimal hsettings.most_le
  case requestTimeout =>
    cases htext
    exact Text.readUnsigned?_decimal hsettings.timeout_le
  case kinds =>
    cases htext
    exact congrArg some (readKinds_intercalate hsettings.kinds)
  case port =>
    obtain ⟨port, hport, rfl⟩ := Option.map_eq_some_iff.mp htext
    have hread : Text.readUnsigned? Text.maxPort (Text.decimal port.toNat) = some port.toNat :=
      Text.readUnsigned?_decimal (Nat.le_of_lt_succ port.toNat_lt)
    rw [hport, Variable.read?, hread]
    exact congrArg (fun number => some (some number)) UInt16.ofNat_toNat
  case healthEnabled =>
    cases htext
    dsimp only [Variable.field]
    cases settings.health.enabled <;> rfl
  case bindAddress =>
    cases htext
    exact Net.SocketAddress.parse?_render _
  case token | clusterScopeNamespace => exact congrArg some htext.symm
  all_goals
    cases htext
    rfl

/-- A field without a text has its default. -/
theorem Variable.field_of_write?_eq_none {v : Variable} {settings : Settings}
    (hnone : v.write? (v.field settings) = none) : v.field settings = v.field {} := by
  cases v
  case token | clusterScopeNamespace => exact hnone
  case port => exact Option.map_eq_none_iff.mp hnone
  all_goals cases hnone

end Rescan.Settings
