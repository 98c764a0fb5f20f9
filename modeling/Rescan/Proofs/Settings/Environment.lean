import Mathlib.Data.List.Basic
import Rescan.Proofs.Settings.Variables
import Rescan.Settings.File

/-! # Settings from the environment

Where every variable is set to a text, loading gives each field the value of its own variable or
tells the first text that has not the form of its field. A variable that is set to no text counts
as one that is not set, so that its setting is passed over.
-/

namespace Rescan.Settings

namespace Environment

/-- A variable is set to a text. -/
def Sets (env : Environment) (v : Variable) (text : String) : Prop :=
  ∃ bytes, env.bytes? v.name = some bytes ∧ Text.Utf8.decode? bytes = some text

/-- Every variable that is set is set to a text. -/
def IsText (env : Environment) : Prop :=
  ∀ (v : Variable), ∀ bytes ∈ env.bytes? v.name, (Text.Utf8.decode? bytes).isSome = true

/-- Every variable is set to the text of its field. -/
def Spells (env : Environment) (settings : Settings) : Prop :=
  ∀ v : Variable, env.bytes? v.name =
    (v.write? (v.field settings)).map fun text => Text.Utf8.encode text.toList

theorem sets_iff {env : Environment} {v : Variable} {text : String} :
    env.Sets v text ↔ env.get? v.name = some text := by
  rw [get?_eq, Option.bind_eq_some_iff, Sets]

/-- The environment without a variable. -/
def without (env : Environment) (v : Variable) : Environment :=
  env.filter fun entry => entry.1 != v.name

theorem get?_without (env : Environment) (v u : Variable) :
    (env.without v).get? u.name = if u = v then none else env.get? u.name := by
  rw [get?, get?, without, List.find?_filter]
  split
  next hsame =>
    rw [List.find?_eq_none.mpr fun entry _ => by simp [hsame]]
    rfl
  next hother =>
    have hnames : u.name ≠ v.name := fun hname => hother (Variable.name_injective hname)
    congr 2
    funext entry
    by_cases hentry : entry.1 = u.name
    · simp [hentry, hnames]
    · simp [hentry]

theorem Spells.get?_eq {env : Environment} {settings : Settings} (hspells : env.Spells settings)
    (v : Variable) : env.get? v.name = v.write? (v.field settings) := by
  rw [Environment.get?_eq, hspells]
  cases v.write? (v.field settings) <;> simp

end Environment

/-! ## Faults -/

namespace Variable

variable {v : Variable} {env : Environment}

theorem fault?_of_sets {text : String} (hset : env.Sets v text) :
    v.fault? env = if (v.read? text).isNone then some ⟨v.name, text⟩ else none := by
  rw [fault?, Environment.sets_iff.mp hset]

theorem fault?_eq_some_iff {fault : EnvironmentFault} :
    v.fault? env = some fault ↔
      env.Sets v fault.value ∧ v.read? fault.value = none ∧ fault.name = v.name := by
  constructor
  · intro hfault
    rw [fault?] at hfault
    split at hfault
    · cases hfault
    next text hget =>
      split at hfault
      next hnone =>
        cases hfault
        exact ⟨Environment.sets_iff.mpr hget, Option.isNone_iff_eq_none.mp hnone, rfl⟩
      · cases hfault
  · rintro ⟨hset, hnone, hname⟩
    rw [fault?_of_sets hset, hnone, ← hname]
    rfl

theorem fault?_eq_none_iff :
    v.fault? env = none ↔ ∀ text, env.Sets v text → v.read? text ≠ none := by
  constructor
  · intro hnone text hset hread
    rw [fault?_of_sets hset, hread] at hnone
    cases hnone
  · intro hall
    rw [Option.eq_none_iff_forall_ne_some]
    intro fault hfault
    obtain ⟨hset, hread, -⟩ := fault?_eq_some_iff.mp hfault
    exact hall _ hset hread

/-- A variable that is set to a text without a fault gives its field what the text stands for. -/
theorem value_of_sets {text : String} (hset : env.Sets v text) (hfault : v.fault? env = none) :
    v.read? text = some (v.value env) := by
  obtain ⟨parsed, hread⟩ := Option.ne_none_iff_exists'.mp (fault?_eq_none_iff.mp hfault text hset)
  rw [value, Environment.sets_iff.mp hset, Option.bind_some, hread, Option.getD_some]

/-- A variable that is set to no text leaves the default. -/
theorem value_of_get?_eq_none (hget : env.get? v.name = none) : v.value env = v.field {} := by
  rw [value, hget]
  rfl

end Variable

/-- Loading is refused for the first variable with a fault, in the order of reading. -/
theorem ofEnvironment_eq_error_iff {env : Environment} {fault : EnvironmentFault} :
    ofEnvironment env = .error fault ↔
      ∃ earlier v later, Variable.typed = earlier ++ v :: later ∧ v.fault? env = some fault ∧
        ∀ u ∈ earlier, u.fault? env = none := by
  rw [ofEnvironment_eq, ← List.findSome?_eq_some_iff]
  cases Variable.typed.findSome? (·.fault? env) <;> simp

/-- Loading gives settings just if no variable has a fault, and then each field has the value of
its variable. -/
theorem ofEnvironment_eq_ok_iff {env : Environment} {settings : Settings} :
    ofEnvironment env = .ok settings ↔
      ∀ v : Variable, v.fault? env = none ∧ v.field settings = v.value env := by
  have htyped : Variable.typed.findSome? (·.fault? env) = none ↔
      ∀ v : Variable, v.fault? env = none := by
    rw [List.findSome?_eq_none_iff]
    refine ⟨fun hall v => ?_, fun hall v _ => hall v⟩
    by_cases hmem : v ∈ Variable.typed
    · exact hall v hmem
    · refine Variable.fault?_eq_none_iff.mpr fun text _ => ?_
      obtain ⟨parsed, hread⟩ := Variable.exists_read?_of_not_mem_typed hmem text
      simp [hread]
  rw [ofEnvironment_eq]
  constructor
  · intro hload v
    split at hload
    · cases hload
    next hnone =>
      cases hload
      exact ⟨htyped.mp hnone v, field_ofFields _ v⟩
  · intro hall
    rw [htyped.mpr fun v => (hall v).1]
    exact congrArg Except.ok (ext_field fun v => (field_ofFields _ v).trans (hall v).2.symm)

/-- The environment that spells settings is loaded as these settings. -/
theorem Expressible.ofEnvironment_eq_ok {settings : Settings} (hsettings : settings.Expressible)
    {env : Environment} (hspells : env.Spells settings) : ofEnvironment env = .ok settings := by
  rw [ofEnvironment_eq_ok_iff]
  intro v
  have hget := hspells.get?_eq v
  have hread : ∀ text, env.Sets v text → v.read? text = some (v.field settings) :=
    fun text hset => hsettings.read?_write? v (hget.symm.trans (Environment.sets_iff.mp hset))
  have hfault : v.fault? env = none := by
    refine Variable.fault?_eq_none_iff.mpr fun text hset => ?_
    rw [hread text hset]
    exact Option.some_ne_none _
  refine ⟨hfault, ?_⟩
  cases hwrite : v.write? (v.field settings) with
  | none =>
      rw [Variable.value_of_get?_eq_none (hget.trans hwrite)]
      exact Variable.field_of_write?_eq_none hwrite
  | some text =>
      have hset : env.Sets v text := Environment.sets_iff.mpr (hget.trans hwrite)
      exact Option.some.inj ((hread text hset).symm.trans (Variable.value_of_sets hset hfault))

theorem ofFile_empty (path : String) : ofFile path (some []) = .ok {} := by
  have hread : Text.Utf8.decode? [] = some "" := Text.Utf8.decode?_encode []
  have hparse : ofToml? "" = some {} := rfl
  rw [ofFile, Option.bind_some, hread]
  dsimp only
  rw [hparse]

/-! ## Loading -/

/-- Every variable of an environment that is set is set to a text. Loading is refused just if the
text of a number, of the flag or of the address has not the form of its field, and the first such
variable in the order of reading is told with its text. Else every field has the value of its own
variable, or what an empty file gives if the variable is not set. An environment that differs in
one variable leads to other values at most in the field of that variable. Settings that variables
can hold are loaded where each variable is set to the text of its field. -/
theorem environment_gives_each_field (env : Environment) (htext : env.IsText) :
    ((∃ fault, ofEnvironment env = .error fault) ↔
      ∃ v ∈ Variable.typed, ∃ text, env.Sets v text ∧ v.read? text = none) ∧
    (∀ fault, ofEnvironment env = .error fault →
      ∃ earlier v later, Variable.typed = earlier ++ v :: later ∧ env.Sets v fault.value ∧
        v.read? fault.value = none ∧
        fault.message = "Invalid value for " ++ v.name ++ ": " ++ fault.value ∧
        ∀ u ∈ earlier, ∀ text, env.Sets u text → u.read? text ≠ none) ∧
    (∃ empty, (∀ path, ofFile path (some []) = .ok empty) ∧
      ∀ settings, ofEnvironment env = .ok settings → ∀ v : Variable,
        (∀ bytes, env.bytes? v.name = some bytes →
          ∃ text, env.Sets v text ∧ v.read? text = some (v.field settings)) ∧
        (env.bytes? v.name = none → v.field settings = v.field empty)) ∧
    (∀ (other : Environment) (changed : Variable),
      (∀ v, v ≠ changed → other.bytes? v.name = env.bytes? v.name) →
      ∀ settings others, ofEnvironment env = .ok settings → ofEnvironment other = .ok others →
        ∀ v, v ≠ changed → v.field others = v.field settings) ∧
    (∀ settings, Expressible settings → ∀ spelled : Environment, spelled.Spells settings →
      ofEnvironment spelled = .ok settings) := by
  refine ⟨⟨?_, ?_⟩, ?_, ⟨{}, ofFile_empty, ?_⟩, ?_,
    fun settings hsettings spelled => hsettings.ofEnvironment_eq_ok⟩
  · rintro ⟨fault, hfault⟩
    obtain ⟨earlier, v, later, htyped, hv, -⟩ := ofEnvironment_eq_error_iff.mp hfault
    obtain ⟨hset, hread, -⟩ := Variable.fault?_eq_some_iff.mp hv
    exact ⟨v, by simp [htyped], fault.value, hset, hread⟩
  · rintro ⟨v, -, text, hset, hread⟩
    cases hload : ofEnvironment env with
    | error fault => exact ⟨fault, rfl⟩
    | ok settings =>
        have hnone := (ofEnvironment_eq_ok_iff.mp hload v).1
        exact absurd hread (Variable.fault?_eq_none_iff.mp hnone text hset)
  · intro fault hfault
    obtain ⟨earlier, v, later, htyped, hv, hearlier⟩ := ofEnvironment_eq_error_iff.mp hfault
    obtain ⟨hset, hread, hname⟩ := Variable.fault?_eq_some_iff.mp hv
    have hmessage : fault.message = "Invalid value for " ++ v.name ++ ": " ++ fault.value := by
      rw [← hname]
      rfl
    refine ⟨earlier, v, later, htyped, hset, hread, hmessage, ?_⟩
    exact fun u hmem => Variable.fault?_eq_none_iff.mp (hearlier u hmem)
  · intro settings hload v
    obtain ⟨hfault, hfield⟩ := ofEnvironment_eq_ok_iff.mp hload v
    constructor
    · intro bytes hbytes
      obtain ⟨text, hread⟩ := Option.isSome_iff_exists.mp (htext v bytes hbytes)
      have hset : env.Sets v text := ⟨bytes, hbytes, hread⟩
      exact ⟨text, hset, by rw [hfield]; exact Variable.value_of_sets hset hfault⟩
    · intro hbytes
      rw [hfield]
      exact Variable.value_of_get?_eq_none (by rw [Environment.get?_eq, hbytes]; rfl)
  · intro other changed hsame settings others hload hother v hv
    have hget : other.get? v.name = env.get? v.name := by
      rw [Environment.get?_eq, Environment.get?_eq, hsame v hv]
    rw [(ofEnvironment_eq_ok_iff.mp hload v).2, (ofEnvironment_eq_ok_iff.mp hother v).2,
      Variable.value, Variable.value, hget]

/-- The bytes of a text. -/
def bytesOf (text : String) : List UInt8 := Text.Utf8.encode text.toList

/-- An environment in which a port and a flag have not their forms. -/
def misspelt : Environment :=
  [("SCANWATCH_KINDS", bytesOf " pod ,,node"), ("SCANWATCH_HEALTH_ENABLED", bytesOf "yes"),
    ("SCANWATCH_SCAN_API_PORT", bytesOf "80x")]

/-- Settings far from the defaults. -/
def distant : Settings where
  debouncer := ⟨Text.maxWord, 0⟩
  dispatch := ⟨1, "", some ""⟩
  monitor := ⟨["pod", "no de"], "ночь", "a,b = \"c\""⟩
  scanApi := ⟨" ", some 0, none⟩
  health := ⟨false, .v6 ⟨[0xFE80, 0, 0, 0, 0, 0, 0, 1], rfl⟩ 3 65535⟩
  logging := ⟨"", "\n"⟩

/-- The environment that spells them. -/
def distantEnvironment : Environment :=
  [("SCANWATCH_LOG_FORMAT", bytesOf "\n"), ("SCANWATCH_LOG_LEVEL", []),
    ("SCANWATCH_HEALTH_BIND", bytesOf "[fe80::1%3]:65535"),
    ("SCANWATCH_HEALTH_ENABLED", bytesOf "false"), ("PATH", [0xFF]),
    ("SCANWATCH_SCAN_API_PORT", bytesOf "0"), ("SCANWATCH_SCAN_API_SELECTOR", bytesOf " "),
    ("SCANWATCH_MANAGED_BY_PREFIX", bytesOf "a,b = \"c\""),
    ("SCANWATCH_IDENTITY_NAMESPACE", bytesOf "ночь"),
    ("SCANWATCH_KINDS", bytesOf "pod,no de"), ("SCANWATCH_SCAN_API_TOKEN", []),
    ("SCANWATCH_SCAN_PATH", []), ("SCANWATCH_REQUEST_TIMEOUT", bytesOf "1"),
    ("SCANWATCH_MAX_CONCURRENT_DISPATCHES", bytesOf "0"),
    ("SCANWATCH_TICK_INTERVAL_MS", bytesOf "18446744073709551615")]

/-- The first environment is refused; settings that no check would pass are still loaded from the
second one. -/
theorem environment_gives_each_field_distant :
    misspelt.IsText ∧ (∃ fault, ofEnvironment misspelt = .error fault) ∧
    distantEnvironment.Spells distant ∧ ofEnvironment distantEnvironment = .ok distant := by
  have htext : misspelt.IsText := by
    intro v
    cases v <;> decide +kernel
  have hspells : distantEnvironment.Spells distant := by
    intro v
    cases v <;> decide +kernel
  have hexpressible : distant.Expressible :=
    ⟨by decide, by decide, by decide, by unfold Separable; decide +kernel⟩
  obtain ⟨hrefused, -, -, -, hloaded⟩ := environment_gives_each_field misspelt htext
  refine ⟨htext, hrefused.mpr ⟨.port, by decide, "80x", ?_, by decide +kernel⟩, hspells,
    hloaded distant hexpressible _ hspells⟩
  exact ⟨bytesOf "80x", by decide +kernel, by decide +kernel⟩

/-- A loaded environment in which variables may be set to any bytes. A field has the value of its
variable just if the variable is set to a text. A variable that is set to no text leaves the
default, and what is loaded is the same without it. -/
theorem set_variable_decides_iff_text (env : Environment) (settings : Settings)
    (hload : ofEnvironment env = .ok settings) (v : Variable) (bytes : List UInt8)
    (hset : env.bytes? v.name = some bytes) :
    ((∃ text, Text.Utf8.decode? bytes = some text ∧ v.read? text = some (v.field settings)) ↔
      (Text.Utf8.decode? bytes).isSome = true) ∧
    (Text.Utf8.decode? bytes = none →
      v.field settings = v.field {} ∧ ofEnvironment (env.without v) = .ok settings) := by
  obtain ⟨hfault, hfield⟩ := ofEnvironment_eq_ok_iff.mp hload v
  refine ⟨⟨?_, ?_⟩, fun hbytes => ?_⟩
  · rintro ⟨text, hread, -⟩
    rw [hread]
    rfl
  · intro hsome
    obtain ⟨text, hread⟩ := Option.isSome_iff_exists.mp hsome
    refine ⟨text, hread, ?_⟩
    rw [hfield]
    exact Variable.value_of_sets ⟨bytes, hset, hread⟩ hfault
  · have hget : env.get? v.name = none := by
      rw [Environment.get?_eq, hset, Option.bind_some, hbytes]
    have hsame (u : Variable) : (env.without v).get? u.name = env.get? u.name := by
      rw [Environment.get?_without]
      split
      next hu => rw [hu, hget]
      · rfl
    refine ⟨by rw [hfield, Variable.value_of_get?_eq_none hget], ?_⟩
    rw [ofEnvironment_eq_ok_iff]
    intro u
    obtain ⟨hfault, hfield⟩ := ofEnvironment_eq_ok_iff.mp hload u
    refine ⟨?_, ?_⟩
    · rw [Variable.fault?, hsame]
      exact hfault
    · rw [hfield, Variable.value, Variable.value, hsame]

/-- An environment in which the kinds are set to a text, and other variables to none. -/
def garbled : Environment :=
  [("SCANWATCH_KINDS", bytesOf "pod"), ("SCANWATCH_TICK_INTERVAL_MS", [0xFF]),
    ("SCANWATCH_SCAN_API_TOKEN", [0x74, 0xFF])]

/-- Its kinds are loaded, and its token is as good as not set. -/
theorem set_variable_decides_iff_text_garbled :
    ofEnvironment garbled = .ok { monitor := { kinds := ["pod"] } } ∧
    ofEnvironment (garbled.without .token) = .ok { monitor := { kinds := ["pod"] } } := by
  have hload : ofEnvironment garbled = .ok { monitor := { kinds := ["pod"] } } := by
    rw [ofEnvironment_eq_ok_iff]
    intro v
    cases v <;> exact ⟨by decide +kernel, by decide +kernel⟩
  obtain ⟨-, hignored⟩ := set_variable_decides_iff_text garbled _ hload .token [0x74, 0xFF]
    (by decide +kernel)
  exact ⟨hload, (hignored (by decide +kernel)).2⟩

/-- An environment in which the interval, the kinds and the token are set to no text. -/
def unreadable : Environment :=
  [("SCANWATCH_TICK_INTERVAL_MS", [0xFF]), ("SCANWATCH_KINDS", [0x70, 0x6F, 0x64, 0xFF]),
    ("SCANWATCH_SCAN_API_TOKEN", [0x74, 0xFF])]

/-- It is loaded with the defaults, though three variables are set and have decided nothing. -/
theorem set_variables_passed_over :
    ofEnvironment unreadable = .ok {} ∧
    ∀ v ∈ [Variable.tickInterval, .kinds, .token], ∃ bytes,
      unreadable.bytes? v.name = some bytes ∧
      ¬∃ text, Text.Utf8.decode? bytes = some text ∧ v.read? text = some (v.field {}) := by
  constructor
  · rw [ofEnvironment_eq_ok_iff]
    intro v
    cases v <;> exact ⟨by decide +kernel, by decide +kernel⟩
  · have hnone : ∀ v ∈ [Variable.tickInterval, .kinds, .token],
        (unreadable.bytes? v.name).map Text.Utf8.decode? = some none := by decide +kernel
    intro v hmem
    obtain ⟨bytes, hbytes, hread⟩ := Option.map_eq_some_iff.mp (hnone v hmem)
    refine ⟨bytes, hbytes, ?_⟩
    rintro ⟨text, htext, -⟩
    cases hread.symm.trans htext

end Rescan.Settings
