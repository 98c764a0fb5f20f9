import Mathlib.Data.List.Nodup
import Rescan.CommandLine.Response
import Rescan.Proofs.Net.Addresses
import Rescan.Proofs.Text.Utf8
import Rescan.Proofs.Toml.Documents

/-! # Shown settings can be loaded

The settings that are shown are written as a TOML document, unless a number is too large for one.
When the document is loaded as a settings file it gives the same settings, with a mask in place of
the token.
-/

namespace Rescan.Settings

open Rescan.Toml (Row Sheet Written)

/-! ## The sheets of settings -/

def numberRow (key : String) (n : Nat) : Row := ⟨key, some (Text.decimal n, .integer n)⟩

def textRow (key s : String) : Row := ⟨key, some (Toml.writeText s, .text s.toList)⟩

def optionalTextRow (key : String) (s : Option String) : Row :=
  ⟨key, s.map fun s => (Toml.writeText s, .text s.toList)⟩

def textsRow (key : String) (list : List String) : Row :=
  ⟨key, some (Toml.writeTexts list, .list (list.map fun s => .text s.toList))⟩

def portRow (key : String) (port : Option UInt16) : Row :=
  ⟨key, port.map fun port => (Text.decimal port.toNat, .integer port.toNat)⟩

def flagRow (key : String) (flag : Bool) : Row := ⟨key, some (Toml.writeFlag flag, .flag flag)⟩

def Debouncer.sheet (debouncer : Debouncer) : Sheet where
  name := "debouncer"
  rows := [numberRow "tick_interval_ms" debouncer.tickIntervalMs,
    numberRow "max_concurrent_dispatches" debouncer.maxConcurrentDispatches]

def Dispatch.sheet (dispatch : Dispatch) : Sheet where
  name := "dispatch"
  rows := [numberRow "request_timeout_secs" dispatch.requestTimeoutSecs,
    textRow "scan_path" dispatch.scanPath, optionalTextRow "token" dispatch.token]

def Monitor.sheet (monitor : Monitor) : Sheet where
  name := "monitor"
  rows := [textsRow "kinds" monitor.kinds, textRow "identity_namespace" monitor.identityNamespace,
    textRow "managed_by_prefix" monitor.managedByPrefix]

def ScanApi.sheet (scanApi : ScanApi) : Sheet where
  name := "scan_api"
  rows := [textRow "label_selector" scanApi.labelSelector, portRow "port" scanApi.port,
    optionalTextRow "cluster_scope_namespace" scanApi.clusterScopeNamespace]

def Health.sheet (health : Health) : Sheet where
  name := "health"
  rows := [flagRow "enabled" health.enabled, textRow "bind_address" health.bindAddress.render]

def Logging.sheet (logging : Logging) : Sheet where
  name := "logging"
  rows := [textRow "level" logging.level, textRow "format" logging.format]

/-- The sections of settings as they are written. -/
def sheets (settings : Settings) : List Sheet :=
  [settings.debouncer.sheet, settings.dispatch.sheet, settings.monitor.sheet,
    settings.scanApi.sheet, settings.health.sheet, settings.logging.sheet]

/-- All numbers of the settings fit into a TOML document. -/
def Fits (settings : Settings) : Prop :=
  settings.debouncer.tickIntervalMs ≤ Toml.maxInteger ∧
    settings.debouncer.maxConcurrentDispatches ≤ Toml.maxInteger ∧
    settings.dispatch.requestTimeoutSecs ≤ Toml.maxInteger

instance : DecidablePred Fits := fun _ => inferInstanceAs (Decidable (_ ∧ _ ∧ _))

theorem toToml?_eq (settings : Settings) :
    settings.toToml? =
      if settings.Fits then some ("\n".intercalate (settings.sheets.map Sheet.write))
      else none := by
  have hwrite (n : Nat) : Toml.writeNat? n =
      if n ≤ Toml.maxInteger then some (Text.decimal n) else none := rfl
  unfold Fits
  rw [toToml?, tables?]
  by_cases htick : settings.debouncer.tickIntervalMs ≤ Toml.maxInteger
  · by_cases hmost : settings.debouncer.maxConcurrentDispatches ≤ Toml.maxInteger
    · by_cases htimeout : settings.dispatch.requestTimeoutSecs ≤ Toml.maxInteger
      · simp [hwrite, htick, hmost, htimeout, sheets, Sheet.write, Debouncer.sheet, Dispatch.sheet,
          Monitor.sheet, ScanApi.sheet, Health.sheet, Logging.sheet, numberRow, textRow,
          optionalTextRow, textsRow, portRow, flagRow, Function.comp_def]
      · simp [hwrite, htick, hmost, htimeout]
    · simp [hwrite, htick, hmost]
  · simp [hwrite, htick]

/-! ## Soundness -/

theorem textRow_sound {key : String} (hkey : Toml.IsBareKey key) (s : String) :
    (textRow key s).Sound := by
  refine ⟨hkey, ?_⟩
  rintro _ ⟨⟩
  have hwritten := Toml.writeChars_written s.toList
  simpa [Toml.writeText] using hwritten

theorem optionalTextRow_sound {key : String} (hkey : Toml.IsBareKey key) (s : Option String) :
    (optionalTextRow key s).Sound := by
  refine ⟨hkey, ?_⟩
  intro content hcontent
  obtain ⟨text, -, rfl⟩ := Option.map_eq_some_iff.mp hcontent
  exact (textRow_sound hkey text).written _ rfl

theorem numberRow_sound {key : String} (hkey : Toml.IsBareKey key) {n : Nat}
    (hn : n ≤ Toml.maxInteger) : (numberRow key n).Sound := by
  refine ⟨hkey, ?_⟩
  rintro _ ⟨⟩
  exact Toml.decimal_written hn

theorem textsRow_sound {key : String} (hkey : Toml.IsBareKey key) (list : List String) :
    (textsRow key list).Sound := by
  refine ⟨hkey, ?_⟩
  rintro _ ⟨⟩
  exact Toml.writeTexts_written list

theorem portRow_sound {key : String} (hkey : Toml.IsBareKey key) (port : Option UInt16) :
    (portRow key port).Sound := by
  refine ⟨hkey, ?_⟩
  intro content hcontent
  obtain ⟨port, -, rfl⟩ := Option.map_eq_some_iff.mp hcontent
  have hport := port.toNat_lt
  exact Toml.decimal_written (by rw [Toml.maxInteger]; omega)

theorem flagRow_sound {key : String} (hkey : Toml.IsBareKey key) (flag : Bool) :
    (flagRow key flag).Sound := by
  refine ⟨hkey, ?_⟩
  rintro _ ⟨⟩
  exact Toml.writeFlag_written flag

theorem sheet_sound {name : String} (hname : Toml.IsBareKey name) {rows : List Row}
    (keys : List String) (hkeys : rows.map Row.key = keys) (hnodup : keys.Nodup)
    (hrows : ∀ row ∈ rows, row.Sound) : Sheet.Sound ⟨name, rows⟩ :=
  ⟨hname, hrows, hkeys ▸ hnodup⟩

theorem sheets_sound {settings : Settings} (hfits : settings.Fits) :
    ∀ sheet ∈ settings.sheets, sheet.Sound := by
  obtain ⟨htick, hmost, htimeout⟩ := hfits
  have hnil : ∀ row ∈ ([] : List Row), row.Sound := List.forall_mem_nil _
  simp only [sheets, List.forall_mem_cons]
  refine ⟨?_, ?_, ?_, ?_, ?_, ?_, List.forall_mem_nil _⟩
  · apply sheet_sound (by decide) ["tick_interval_ms", "max_concurrent_dispatches"] rfl (by decide)
    simp only [List.forall_mem_cons]
    exact ⟨numberRow_sound (by decide) htick, numberRow_sound (by decide) hmost, hnil⟩
  · apply sheet_sound (by decide) ["request_timeout_secs", "scan_path", "token"] rfl (by decide)
    simp only [List.forall_mem_cons]
    exact ⟨numberRow_sound (by decide) htimeout, textRow_sound (by decide) _,
      optionalTextRow_sound (by decide) _, hnil⟩
  · apply sheet_sound (by decide) ["kinds", "identity_namespace", "managed_by_prefix"] rfl
      (by decide)
    simp only [List.forall_mem_cons]
    exact ⟨textsRow_sound (by decide) _, textRow_sound (by decide) _, textRow_sound (by decide) _,
      hnil⟩
  · apply sheet_sound (by decide) ["label_selector", "port", "cluster_scope_namespace"] rfl
      (by decide)
    simp only [List.forall_mem_cons]
    exact ⟨textRow_sound (by decide) _, portRow_sound (by decide) _,
      optionalTextRow_sound (by decide) _, hnil⟩
  · apply sheet_sound (by decide) ["enabled", "bind_address"] rfl (by decide)
    simp only [List.forall_mem_cons]
    exact ⟨flagRow_sound (by decide) _, textRow_sound (by decide) _, hnil⟩
  · apply sheet_sound (by decide) ["level", "format"] rfl (by decide)
    simp only [List.forall_mem_cons]
    exact ⟨textRow_sound (by decide) _, textRow_sound (by decide) _, hnil⟩

/-! ## Loading -/

theorem ofTomlEntries_eq_map (entries : List (String × Toml.Value)) :
    Tree.ofTomlEntries entries = entries.map fun entry => (entry.1, Tree.ofToml entry.2) := by
  induction entries with
  | nil => rfl
  | cons entry entries ih => rw [Tree.ofTomlEntries, ih, List.map_cons]

/-- Of different names each has the one value that is there. -/
theorem lastOf_eq_some {entries : List (String × Tree)} (hnodup : (entries.map Prod.fst).Nodup)
    {entry : String × Tree} (hmem : entry ∈ entries) : lastOf entry.1 entries = some entry.2 := by
  have hsome : (entries.reverse.find? fun other => other.1 == entry.1).isSome := by
    rw [List.find?_isSome]
    exact ⟨entry, List.mem_reverse.mpr hmem, beq_self_eq_true _⟩
  obtain ⟨found, hfound⟩ := Option.isSome_iff_exists.mp hsome
  have hname : found.1 = entry.1 := by simpa using List.find?_some hfound
  have hsame : found = entry :=
    List.inj_on_of_nodup_map hnodup (List.mem_reverse.mp (List.mem_of_find?_eq_some hfound)) hmem
      hname
  rw [lastOf, hfound, Option.map_some, hsame]

theorem lastOf_eq_none {entries : List (String × Tree)} {name : String}
    (hname : name ∉ entries.map Prod.fst) : lastOf name entries = none := by
  rw [lastOf, Option.map_eq_none_iff, List.find?_eq_none]
  intro entry hentry heq
  rw [beq_iff_eq] at heq
  exact hname (heq ▸ List.mem_map_of_mem (List.mem_reverse.mp hentry))

/-- The tree of a sheet. -/
def sheetTree (sheet : Sheet) : Tree := .ofToml (.table sheet.entries)

/-- The parts of the tree of a sheet are the values of its rows. -/
theorem parts?_sheetTree {sheet : Sheet} {names : List String}
    (hnames : sheet.rows.map Row.key = names) (hnodup : names.Nodup) :
    parts? true names (sheetTree sheet) =
      some (sheet.rows.map fun row => row.content.map fun content => .ofToml content.2) := by
  subst hnames
  rw [sheetTree, Tree.ofToml, parts?, ofTomlEntries_eq_map, List.map_map]
  refine congrArg some (List.map_congr_left fun row hrow => ?_)
  rw [Function.comp_apply]
  have hkeys : ((sheet.entries.map fun entry => (entry.1, Tree.ofToml entry.2)).map
      Prod.fst).Nodup := by
    rw [List.map_map]
    exact hnodup.sublist (Sheet.keys_sublist sheet.rows)
  cases hcontent : row.content with
  | none =>
      apply lastOf_eq_none
      intro hmem
      simp only [Sheet.entries, List.mem_map, List.mem_filterMap] at hmem
      obtain ⟨_, ⟨_, ⟨other, hother, hentry⟩, rfl⟩, hkey⟩ := hmem
      obtain ⟨content, hsome, rfl⟩ := Option.map_eq_some_iff.mp hentry
      rw [List.inj_on_of_nodup_map hnodup hother hrow hkey, hcontent] at hsome
      cases hsome
  | some content =>
      have hentry : row.entry? = some (row.key, content.2) := by
        rw [Row.entry?, hcontent, Option.map_some]
      have hmem : (row.key, content.2) ∈ sheet.entries := List.mem_filterMap.mpr ⟨row, hrow, hentry⟩
      exact lastOf_eq_some hkeys (List.mem_map_of_mem hmem)

theorem ofTomlItems_texts (list : List String) :
    Tree.ofTomlItems (list.map fun s => .text s.toList) = list.map .text := by
  induction list with
  | nil => rfl
  | cons s list ih =>
      rw [List.map_cons, List.map_cons, Tree.ofTomlItems, ih, Tree.ofToml, String.ofList_toList]

theorem texts?_list (list : List String) :
    (Tree.list (list.map .text)).texts? = some list := by
  rw [Tree.texts?, List.mapM_map]
  exact (List.mapM_pure (f := fun s => s)).trans (congrArg some (List.map_id' list))

theorem nat?_whole {bound n : Nat} (hn : n ≤ bound) : (Tree.whole n).nat? bound = some n :=
  if_pos hn

theorem port?_whole (port : UInt16) : port? (.whole port.toNat) = some port := by
  have hport : port.toNat ≤ Text.maxPort := Nat.le_of_lt_succ port.toNat_lt
  rw [port?, nat?_whole hport, Option.map_some, UInt16.ofNat_toNat]

/-! ### Sections -/

theorem Debouncer.ofTree?_sheet {debouncer : Debouncer}
    (htick : debouncer.tickIntervalMs ≤ Text.maxWord)
    (hmost : debouncer.maxConcurrentDispatches ≤ Text.maxWord) :
    ofTree? true (sheetTree debouncer.sheet) = some debouncer := by
  rw [ofTree?, parts?_sheetTree]
  · simp [sheet, numberRow, Tree.ofToml, Part.read, nat?_whole, htick, hmost]
  · rfl
  · decide

theorem Dispatch.ofTree?_sheet {dispatch : Dispatch}
    (htimeout : dispatch.requestTimeoutSecs ≤ Text.maxWord) :
    ofTree? true (sheetTree dispatch.sheet) = some dispatch := by
  obtain ⟨timeout, path, token⟩ := dispatch
  rw [ofTree?, parts?_sheetTree]
  · cases token <;>
      simp [sheet, numberRow, textRow, optionalTextRow, Tree.ofToml, Part.read, nat?_whole,
        htimeout, Tree.text?, Tree.optional?]
  · rfl
  · decide

theorem Monitor.ofTree?_sheet (monitor : Monitor) :
    ofTree? true (sheetTree monitor.sheet) = some monitor := by
  rw [ofTree?, parts?_sheetTree]
  · simp [sheet, textsRow, textRow, Tree.ofToml, ofTomlItems_texts, Part.read, texts?_list,
      Tree.text?]
  · rfl
  · decide

theorem ScanApi.ofTree?_sheet (scanApi : ScanApi) :
    ofTree? true (sheetTree scanApi.sheet) = some scanApi := by
  obtain ⟨selector, port, ns⟩ := scanApi
  rw [ofTree?, parts?_sheetTree]
  · cases port <;> cases ns <;>
      simp [sheet, textRow, portRow, optionalTextRow, Tree.ofToml, Part.read, Tree.text?,
        Tree.optional?, port?_whole]
  · rfl
  · decide

theorem Health.ofTree?_sheet (health : Health) :
    ofTree? true (sheetTree health.sheet) = some health := by
  rw [ofTree?, parts?_sheetTree]
  · simp [sheet, textRow, flagRow, Tree.ofToml, Part.read, Tree.text?, Tree.flag?, address?,
      Net.SocketAddress.parse?_render]
  · rfl
  · decide

theorem Logging.ofTree?_sheet (logging : Logging) :
    ofTree? true (sheetTree logging.sheet) = some logging := by
  rw [ofTree?, parts?_sheetTree]
  · simp [sheet, textRow, Tree.ofToml, Part.read, Tree.text?]
  · rfl
  · decide

/-- Settings are read from the tables of their sheets. -/
theorem ofTree?_sheets {settings : Settings} (hfits : settings.Fits) :
    ofTree? true (.ofToml (.table (settings.sheets.map fun sheet =>
      (sheet.name, .table sheet.entries)))) = some settings := by
  obtain ⟨htick, hmost, htimeout⟩ := hfits
  have hword : Toml.maxInteger ≤ Text.maxWord := by decide
  have hentries : Tree.ofToml (.table (settings.sheets.map fun sheet =>
        (sheet.name, .table sheet.entries))) =
      .table [("debouncer", sheetTree settings.debouncer.sheet),
        ("dispatch", sheetTree settings.dispatch.sheet),
        ("monitor", sheetTree settings.monitor.sheet),
        ("scan_api", sheetTree settings.scanApi.sheet),
        ("health", sheetTree settings.health.sheet),
        ("logging", sheetTree settings.logging.sheet)] := rfl
  rw [hentries, ofTree?]
  simp [parts?, sectionNames, lastOf, Part.read,
    Debouncer.ofTree?_sheet (htick.trans hword) (hmost.trans hword),
    Dispatch.ofTree?_sheet (htimeout.trans hword), Monitor.ofTree?_sheet, ScanApi.ofTree?_sheet,
    Health.ofTree?_sheet, Logging.ofTree?_sheet]

/-- The document that settings are written as is loaded as the settings, also if a line end
follows. -/
theorem ofToml?_of_toToml? {settings : Settings} {text : String}
    (htext : settings.toToml? = some text) {behind : String}
    (hbehind : behind = "" ∨ behind = "\n") : ofToml? (text ++ behind) = some settings := by
  rw [toToml?_eq] at htext
  split at htext
  next hfits =>
    cases htext
    have hsheets : settings.sheets ≠ [] := List.cons_ne_nil _ _
    have hnodup : (settings.sheets.map Sheet.name).Nodup := (by decide : sectionNames.Nodup)
    rw [ofToml?, Toml.parse?_sheets hsheets (sheets_sound hfits) hnodup hbehind]
    exact ofTree?_sheets hfits
  next => cases htext

/-! ## Showing -/

/-- Settings are not shown when one of their numbers is too large for a TOML document. -/
theorem shown?_eq_none_iff (settings : Settings) :
    settings.shown? = none ↔ Toml.maxInteger < settings.debouncer.tickIntervalMs ∨
      Toml.maxInteger < settings.debouncer.maxConcurrentDispatches ∨
      Toml.maxInteger < settings.dispatch.requestTimeoutSecs := by
  have hnone : settings.shown? = none ↔ ¬settings.redacted.Fits := by
    rw [shown?, toToml?_eq]
    split
    next hfits => simp [hfits]
    next hfits => simp [hfits]
  have hfits : settings.redacted.Fits ↔ settings.Fits := Iff.rfl
  rw [hnone, hfits, Fits]
  omega

/-- The text of shown settings is the file of these settings with their token masked. -/
theorem ofFile_of_shown? {settings : Settings} {text : String} (htext : settings.shown? = some text)
    {behind : String} (hbehind : behind = "" ∨ behind = "\n") (path : String) :
    ofFile path (some (Text.Utf8.encode (text ++ behind).toList)) = .ok settings.redacted := by
  rw [ofFile, Option.bind_some, Text.Utf8.decode?_encode]
  simp only [String.ofList_toList, ofToml?_of_toToml? htext hbehind]

/-- The settings with a token in place of any other. -/
def withToken (settings : Settings) (token : String) : Settings :=
  { settings with dispatch := { settings.dispatch with token := some token } }

/-- Masked settings do not tell which token there is. -/
theorem redacted_withToken {settings : Settings} (htoken : settings.dispatch.token ≠ none)
    (token : String) : (settings.withToken token).redacted = settings.redacted := by
  obtain ⟨own, hown⟩ := Option.ne_none_iff_exists'.mp htoken
  simp [redacted, withToken, hown]

open CommandLine (Response showSettings)

theorem showSettings_eq {settings : Settings} (hcheck : settings.check = .ok ()) :
    showSettings settings = settings.shown?.elim (.failure "out-of-range value for u64 type")
      fun text => .success (text ++ "\n") := by
  cases htext : settings.shown? <;> simp only [showSettings, hcheck, htext, Option.elim]

/-- Take settings that pass their check. They are not shown exactly when the tick interval, the
number of dispatches or the timeout is too large for a TOML document. Otherwise the text that is
shown, with the line end that is printed after it or without, is a file of the settings with their
token masked, whatever is in their texts. Settings that differ in the value of the token alone are
shown alike. -/
theorem shown_settings_load (settings : Settings) (hcheck : settings.check = .ok ()) :
    (showSettings settings = .failure "out-of-range value for u64 type" ↔
      Toml.maxInteger < settings.debouncer.tickIntervalMs ∨
        Toml.maxInteger < settings.debouncer.maxConcurrentDispatches ∨
        Toml.maxInteger < settings.dispatch.requestTimeoutSecs) ∧
    (showSettings settings ≠ .failure "out-of-range value for u64 type" →
      ∃ text, showSettings settings = .success (text ++ "\n") ∧
        ∀ path, ofFile path (some (Text.Utf8.encode text.toList)) = .ok settings.redacted ∧
          ofFile path (some (Text.Utf8.encode (text ++ "\n").toList)) = .ok settings.redacted) ∧
    (settings.dispatch.token ≠ none →
      ∀ token, showSettings (settings.withToken token) = showSettings settings) := by
  have hfails : showSettings settings = .failure "out-of-range value for u64 type" ↔
      settings.shown? = none := by
    rw [showSettings_eq hcheck]
    cases settings.shown? with
    | none => simp
    | some text => simp [Response.success, Response.failure]
  refine ⟨hfails.trans settings.shown?_eq_none_iff, ?_, ?_⟩
  · intro hnot
    obtain ⟨text, htext⟩ := Option.ne_none_iff_exists'.mp fun hnone => hnot (hfails.mpr hnone)
    refine ⟨text, by rw [showSettings_eq hcheck, htext, Option.elim_some], fun path => ⟨?_, ?_⟩⟩
    · simpa using ofFile_of_shown? htext (Or.inl rfl) path
    · exact ofFile_of_shown? htext (Or.inr rfl) path
  · intro htoken token
    have hother : (settings.withToken token).check = .ok () := hcheck
    rw [showSettings_eq hother, showSettings_eq hcheck, shown?, shown?, redacted_withToken htoken]

/-- Settings with texts that each form of a text is needed for. -/
def crooked : Settings where
  dispatch := { scanPath := "/'''\"\"\"\n\\\x01", token := some "secret" }
  monitor := { kinds := ["pod", "node"], identityNamespace := "\"\"\\", managedByPrefix := "'\"\n" }
  scanApi := { labelSelector := "''\\\n", port := some 80, clusterScopeNamespace := some "" }
  health := { bindAddress := .v6 ⟨[0, 0, 0, 0, 0, 0, 0, 1], rfl⟩ 7 8081 }

/-- Such settings are shown in a form that gives them back. -/
theorem shown_settings_load_crooked :
    crooked.check = .ok () ∧ ∃ text, showSettings crooked = .success (text ++ "\n") ∧
      ofFile "settings.toml" (some (Text.Utf8.encode text.toList)) = .ok crooked.redacted := by
  have hcheck : crooked.check = .ok () := by decide +kernel
  obtain ⟨hfails, hloads, -⟩ := shown_settings_load crooked hcheck
  obtain ⟨text, hshown, hfile⟩ := hloads fun hfailure => absurd (hfails.mp hfailure) (by decide)
  exact ⟨hcheck, text, hshown, (hfile "settings.toml").1⟩

end Rescan.Settings
