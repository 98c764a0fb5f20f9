import Rescan.Proofs.Toml.Values

/-! # TOML documents are read as they were written

A document of tables, each with its header and its entries on lines of their own, is read as these
tables. Entries without a value are not there, and empty lines do not matter.
-/

namespace Rescan.Toml

open Rescan.Text (Stops stops_cons)

/-! ## Statements -/

/-- A key that is written without quotation marks. -/
def IsBareKey (key : String) : Prop :=
  key.toList ≠ [] ∧ key.toList.all isBareKeyChar = true

instance : DecidablePred IsBareKey := fun _ => inferInstanceAs (Decidable (_ ∧ _))

theorem IsBareKey.exists_eq_cons {key : String} (hbare : IsBareKey key) :
    ∃ c more, key.toList = c :: more ∧ isBareKeyChar c = true := by
  obtain ⟨c, more, hkey⟩ := List.exists_cons_of_ne_nil hbare.1
  exact ⟨c, more, hkey, List.all_eq_true.mp hbare.2 c (hkey ▸ List.mem_cons_self)⟩

theorem ne_of_isBareKeyChar {c : Char} (hc : isBareKeyChar c = true) (mark : Char)
    (hmark : isBareKeyChar mark = false) : c ≠ mark := by
  rintro rfl
  rw [hmark] at hc
  cases hc

theorem skipBlanks_bare {c : Char} (hc : isBareKeyChar c = true) (rest : List Char) :
    skipBlanks (c :: rest) = c :: rest := by
  rw [skipBlanks, List.dropWhile_cons_of_neg]
  simp [isBlank, ne_of_isBareKeyChar hc ' ' rfl, ne_of_isBareKeyChar hc '\t' rfl]

theorem key?_bare {key : String} (hbare : IsBareKey key) (rest : List Char)
    (hrest : Stops isBareKeyChar rest) (hdot : Stops (· == '.') (skipBlanks rest)) :
    key? (key.toList ++ rest) = some ([key], skipBlanks rest) := by
  obtain ⟨c, more, hkey, hc⟩ := hbare.exists_eq_cons
  have hstart : skipBlanks (key.toList ++ rest) = key.toList ++ rest := by
    rw [hkey, List.cons_append, skipBlanks_bare hc]
  have hline : lineText? (key.toList ++ rest) = none := by
    rw [hkey, List.cons_append, lineText?]
    · intro more heq
      exact ne_of_isBareKeyChar hc _ rfl (List.cons.inj heq).1
    · intro more heq
      exact ne_of_isBareKeyChar hc _ rfl (List.cons.inj heq).1
  have hpart : keyPart? (key.toList ++ rest) = some (key, skipBlanks rest) := by
    have hchars := List.all_eq_true.mp hbare.2
    simp only [keyPart?, hstart, hline, Stops.takeWhile_append hchars hrest,
      Stops.dropWhile_append hchars hrest, String.ofList_toList]
    rw [if_neg (by simpa using hbare.1)]
  rw [key?, maxParts, keyParts?, hpart, Option.bind_eq_bind, Option.bind_some]
  dsimp only
  split
  next heq =>
    rw [heq] at hdot
    exact absurd (stops_cons.mp hdot) (by decide)
  next => rfl

theorem statement?_header {name : String} (hbare : IsBareKey name) (rest : List Char) :
    statement? ('[' :: (name.toList ++ ']' :: rest)) = some (.header [name], rest) := by
  have hkey := key?_bare hbare (']' :: rest) (stops_cons.mpr rfl) (stops_cons.mpr rfl)
  obtain ⟨c, more, hname, hc⟩ := hbare.exists_eq_cons
  rw [hname, List.cons_append] at hkey ⊢
  rw [statement?, hkey]
  · rfl
  · intro rest heq
    exact ne_of_isBareKeyChar hc _ rfl (List.cons.inj heq).1

theorem statement?_entry {key : String} (hbare : IsBareKey key) {written : List Char}
    {value : Value} (hwritten : Written written value) (rest : List Char) :
    statement? (key.toList ++ ' ' :: '=' :: ' ' :: (written ++ '\n' :: rest)) =
      some (.entry [key] value, '\n' :: rest) := by
  obtain ⟨first, behind, hstarts, hblank⟩ := hwritten.starts
  have hequals : skipBlanks (' ' :: '=' :: ' ' :: (written ++ '\n' :: rest)) =
      '=' :: ' ' :: (written ++ '\n' :: rest) := rfl
  have hvalue : skipBlanks (' ' :: (written ++ '\n' :: rest)) = written ++ '\n' :: rest := by
    rw [skipBlanks, List.dropWhile_cons_of_pos rfl, hstarts, List.cons_append,
      List.dropWhile_cons_of_neg (by simp [hblank])]
  have hkey := key?_bare hbare (' ' :: '=' :: ' ' :: (written ++ '\n' :: rest))
    (stops_cons.mpr rfl) (stops_cons.mpr rfl)
  obtain ⟨c, more, hname, hc⟩ := hbare.exists_eq_cons
  rw [hequals] at hkey
  rw [hname, List.cons_append] at hkey ⊢
  rw [statement?, hkey]
  · change (value? maxDepth (skipBlanks (' ' :: (written ++ '\n' :: rest)))).bind _ = _
    rw [hvalue, hwritten.reads]
    rfl
  · intro rest heq
    exact ne_of_isBareKeyChar hc _ rfl (List.cons.inj heq).1
  · intro rest heq
    exact ne_of_isBareKeyChar hc _ rfl (List.cons.inj heq).1

/-- The statements of a text, however long the reading may take. -/
def Yields (input : List Char) (statements : List Statement) : Prop :=
  ∀ fuel, input.length < fuel → statements? fuel input = some statements

namespace Yields

theorem nil : Yields [] [] := by
  intro fuel hfuel
  obtain ⟨less, rfl⟩ := Nat.exists_eq_succ_of_ne_zero (Nat.ne_of_gt hfuel)
  simp [statements?, skipFiller]

variable {rest : List Char} {statements : List Statement} (hrest : Yields rest statements)

include hrest

theorem emptyLine : Yields ('\n' :: rest) statements := by
  intro fuel hfuel
  rw [List.length_cons] at hfuel
  obtain ⟨less, rfl⟩ := Nat.exists_eq_succ_of_ne_zero (show fuel ≠ 0 by omega)
  have hsame : skipFiller false ('\n' :: rest) = skipFiller false rest := by rw [skipFiller]
  rw [statements?, hsame, ← statements?]
  exact hrest _ (by omega)

/-- One more statement on a line of its own. -/
theorem line (c : Char) (more : List Char) (statement : Statement)
    (hc : isBlank c = false ∧ c ≠ '\n' ∧ c ≠ '\r' ∧ c ≠ '#')
    (hread : statement? (c :: (more ++ '\n' :: rest)) = some (statement, '\n' :: rest)) :
    Yields (c :: (more ++ '\n' :: rest)) (statement :: statements) := by
  intro fuel hfuel
  rw [List.length_cons, List.length_append, List.length_cons] at hfuel
  obtain ⟨less, rfl⟩ := Nat.exists_eq_succ_of_ne_zero (show fuel ≠ 0 by omega)
  have hothers : (statements? less rest).bind (fun others => some (statement :: others)) =
      some (statement :: statements) := by
    rw [hrest less (by omega)]
    rfl
  rw [statements?, skipFiller_cons hc]
  change (statement? (c :: (more ++ '\n' :: rest))).bind _ = _
  rw [hread]
  exact hothers

theorem header {name : String} (hbare : IsBareKey name) :
    Yields ('[' :: (name.toList ++ ']' :: '\n' :: rest)) (.header [name] :: statements) := by
  have hread := statement?_header hbare ('\n' :: rest)
  have hline := hrest.line '[' (name.toList ++ [']']) (.header [name]) (by decide)
  simpa using hline (by simpa using hread)

theorem entry {key : String} (hbare : IsBareKey key) {written : List Char} {value : Value}
    (hwritten : Written written value) :
    Yields (key.toList ++ ' ' :: '=' :: ' ' :: (written ++ '\n' :: rest))
      (.entry [key] value :: statements) := by
  have hread := statement?_entry hbare hwritten rest
  obtain ⟨c, more, hkey, hc⟩ := hbare.exists_eq_cons
  have hfirst : isBlank c = false ∧ c ≠ '\n' ∧ c ≠ '\r' ∧ c ≠ '#' := by
    have hne := ne_of_isBareKeyChar hc
    refine ⟨?_, hne '\n' rfl, hne '\r' rfl, hne '#' rfl⟩
    simp [isBlank, hne ' ' rfl, hne '\t' rfl]
  have hline := hrest.line c (more ++ ' ' :: '=' :: ' ' :: written) (.entry [key] value) hfirst
  rw [hkey] at hread ⊢
  simpa using hline (by simpa using hread)

end Yields

/-! ## Sheets -/

/-- A key with the text and the value that belong to it, if there is a value. -/
structure Row where
  key : String
  content : Option (String × Value)

namespace Row

/-- The line of a row with a value. -/
def line (row : Row) : String :=
  match row.content with
  | some (text, _) => row.key ++ " = " ++ text ++ "\n"
  | none => ""

def entry? (row : Row) : Option (String × Value) :=
  row.content.map fun content => (row.key, content.2)

/-- The key needs no quotation marks, and the text is read as the value. -/
structure Sound (row : Row) : Prop where
  key_bare : IsBareKey row.key
  written : ∀ content ∈ row.content, Written content.1.toList content.2

end Row

/-- A table with its name. -/
structure Sheet where
  name : String
  rows : List Row

namespace Sheet

def write (sheet : Sheet) : String :=
  writeTable sheet.name (sheet.rows.map fun row => (row.key, row.content.map (·.1)))

/-- The entries of the rows that have a value. -/
def entries (sheet : Sheet) : List (String × Value) := sheet.rows.filterMap Row.entry?

/-- The name needs no quotation marks, and the rows are sound and have different keys. -/
structure Sound (sheet : Sheet) : Prop where
  name_bare : IsBareKey sheet.name
  rows_sound : ∀ row ∈ sheet.rows, row.Sound
  keys_nodup : (sheet.rows.map Row.key).Nodup

def statement (entry : String × Value) : Statement := .entry [entry.1] entry.2

/-- The statements of a sheet. -/
def statements (sheet : Sheet) : List Statement :=
  .header [sheet.name] :: sheet.entries.map statement

theorem write_eq (sheet : Sheet) :
    sheet.write = "[" ++ sheet.name ++ "]\n" ++ String.join (sheet.rows.map Row.line) := by
  rw [write, writeTable, List.map_map]
  refine congrArg _ (congrArg _ (List.map_congr_left fun row _ => ?_))
  rw [Function.comp_apply, Row.line]
  cases row.content <;> rfl

theorem keys_sublist (rows : List Row) :
    ((rows.filterMap Row.entry?).map Prod.fst).Sublist (rows.map Row.key) := by
  induction rows with
  | nil => exact List.Sublist.slnil
  | cons row rows ih =>
      cases hentry : row.entry? with
      | none =>
          rw [List.filterMap_cons_none hentry]
          exact ih.cons _
      | some entry =>
          obtain ⟨content, -, rfl⟩ := Option.map_eq_some_iff.mp hentry
          rw [List.filterMap_cons_some hentry]
          exact ih.cons_cons _

end Sheet

theorem yields_rows {rows : List Row} (hsound : ∀ row ∈ rows, row.Sound) {rest : List Char}
    {others : List Statement} (hrest : Yields rest others) :
    Yields ((String.join (rows.map Row.line)).toList ++ rest)
      ((rows.filterMap Row.entry?).map Sheet.statement ++ others) := by
  induction rows with
  | nil => exact hrest
  | cons row rows ih =>
      obtain ⟨hrow, hrows⟩ := List.forall_mem_cons.mp hsound
      have hmore := ih hrows
      cases hsome : row.content with
      | none =>
          have hline : row.line = "" := by rw [Row.line, hsome]
          have hentry : row.entry? = none := by rw [Row.entry?, hsome, Option.map_none]
          simpa [hline, List.filterMap_cons_none hentry] using hmore
      | some content =>
          have hequals : " = ".toList = [' ', '=', ' '] := rfl
          have hend : "\n".toList = ['\n'] := rfl
          have hline : row.line = row.key ++ " = " ++ content.1 ++ "\n" := by rw [Row.line, hsome]
          have hentry : row.entry? = some (row.key, content.2) := by
            rw [Row.entry?, hsome, Option.map_some]
          have hread := hmore.entry hrow.key_bare (hrow.written content hsome)
          simpa [hline, List.filterMap_cons_some hentry, Sheet.statement, hequals, hend] using hread

/-- A sheet is read as its header and its entries. -/
theorem Sheet.Sound.yields {sheet : Sheet} (hsound : sheet.Sound) {rest : List Char}
    {others : List Statement} (hrest : Yields rest others) :
    Yields (sheet.write.toList ++ rest) (sheet.statements ++ others) := by
  have hopen : "[".toList = ['['] := rfl
  have hclose : "]\n".toList = [']', '\n'] := rfl
  have hread := (yields_rows hsound.rows_sound hrest).header hsound.name_bare
  simpa [Sheet.write_eq, Sheet.statements, Sheet.entries, hopen, hclose] using hread

/-- Sheets with an empty line between them are read as the statements of each, also if another
line end follows. -/
theorem yields_sheets {sheets : List Sheet} (hsound : ∀ sheet ∈ sheets, sheet.Sound)
    {rest : List Char} (hrest : Yields rest []) :
    Yields (("\n".intercalate (sheets.map Sheet.write)).toList ++ rest)
      (sheets.flatMap Sheet.statements) := by
  induction sheets with
  | nil => exact hrest
  | cons sheet sheets ih =>
      obtain ⟨hsheet, hsheets⟩ := List.forall_mem_cons.mp hsound
      have hmore := ih hsheets
      cases sheets with
      | nil =>
          have hread := hsheet.yields hrest
          simpa using hread
      | cons next sheets =>
          have hend : "\n".toList = ['\n'] := rfl
          have hread := hsheet.yields hmore.emptyLine
          simpa [String.intercalate_cons_cons, hend] using hread

/-! ## Tables -/

/-- The entries of a table as they are while a document is read. -/
def leaves (entries : List (String × Value)) : List (String × Node) :=
  entries.map fun entry => (entry.1, .leaf entry.2)

theorem lookup_eq_none_of_not_mem {name : String} {nodes : List (String × Node)}
    (hname : name ∉ nodes.map Prod.fst) : nodes.lookup name = none := by
  rw [List.lookup_eq_none_iff]
  intro node hnode
  rw [bne_iff_ne]
  rintro rfl
  exact hname (List.mem_map_of_mem hnode)

theorem setEntry_append {name : String} {nodes : List (String × Node)}
    (hname : name ∉ nodes.map Prod.fst) (node old : Node) :
    setEntry name node (nodes ++ [(name, old)]) = nodes ++ [(name, node)] := by
  induction nodes with
  | nil => simp [setEntry]
  | cons first nodes ih =>
      rw [List.map_cons, List.mem_cons, not_or] at hname
      rw [List.cons_append, setEntry, if_neg (Ne.symm hname.1), ih hname.2, List.cons_append]

section Drafts

variable {nodes : List (String × Node)} {name : String} (hname : name ∉ nodes.map Prod.fst)

include hname

/-- A header of a new name opens a table. -/
theorem add?_header (place : List String) :
    Draft.add? ⟨nodes, place⟩ (.header [name]) =
      some ⟨nodes ++ [(name, .table true false [])], [name]⟩ := by
  simp [Draft.add?, changeAt, openTable, lookup_eq_none_of_not_mem hname]

/-- A new key is added to the table that was opened last. -/
theorem add?_entry {inner : List (String × Node)} {key : String}
    (hkey : key ∉ inner.map Prod.fst) (value : Value) :
    Draft.add? ⟨nodes ++ [(name, .table true false inner)], [name]⟩ (.entry [key] value) =
      some ⟨nodes ++ [(name, .table true false (inner ++ [(key, .leaf value)]))], [name]⟩ := by
  have htable : (nodes ++ [(name, Node.table true false inner)]).lookup name =
      some (.table true false inner) := by
    rw [List.lookup_append, lookup_eq_none_of_not_mem hname, List.lookup_cons_self, Option.none_or]
  simp [Draft.add?, changeAt, addByDots, htable, lookup_eq_none_of_not_mem hkey,
    setEntry_append hname]

theorem foldlM_entries {entries : List (String × Value)}
    (hnodup : (entries.map Prod.fst).Nodup) {inner : List (String × Node)}
    (hinner : ∀ key ∈ entries.map Prod.fst, key ∉ inner.map Prod.fst) :
    (entries.map Sheet.statement).foldlM Draft.add?
        ⟨nodes ++ [(name, .table true false inner)], [name]⟩ =
      some ⟨nodes ++ [(name, .table true false (inner ++ leaves entries))], [name]⟩ := by
  induction entries generalizing inner with
  | nil => simp [leaves]
  | cons entry entries ih =>
      rw [List.map_cons, List.nodup_cons] at hnodup
      have hkey := hinner entry.1 List.mem_cons_self
      have hlater : ∀ key ∈ entries.map Prod.fst,
          key ∉ (inner ++ [(entry.1, Node.leaf entry.2)]).map Prod.fst := by
        intro key hmem
        have hne : key ≠ entry.1 := fun heq => hnodup.1 (heq ▸ hmem)
        simpa [hne] using hinner key (List.mem_cons_of_mem _ hmem)
      rw [List.map_cons, List.foldlM_cons, Sheet.statement, add?_entry hname hkey,
        Option.bind_eq_bind, Option.bind_some, ih hnodup.2 hlater, leaves, leaves, List.map_cons,
        List.append_assoc, List.singleton_append]

theorem foldlM_sheet {sheet : Sheet} (hsound : sheet.Sound) (hsheet : sheet.name = name)
    (place : List String) :
    sheet.statements.foldlM Draft.add? ⟨nodes, place⟩ =
      some ⟨nodes ++ [(name, .table true false (leaves sheet.entries))], [name]⟩ := by
  have hnodup : (sheet.entries.map Prod.fst).Nodup :=
    hsound.keys_nodup.sublist (Sheet.keys_sublist sheet.rows)
  rw [Sheet.statements, hsheet, List.foldlM_cons, add?_header hname, Option.bind_eq_bind,
    Option.bind_some, foldlM_entries hname hnodup (by simp), List.nil_append]

end Drafts

/-- Sheets of different names become as many tables. -/
theorem foldlM_sheets {sheets : List Sheet} (hsound : ∀ sheet ∈ sheets, sheet.Sound)
    (hnodup : (sheets.map Sheet.name).Nodup) {nodes : List (String × Node)}
    (hnodes : ∀ name ∈ sheets.map Sheet.name, name ∉ nodes.map Prod.fst) (place : List String) :
    ∃ last, (sheets.flatMap Sheet.statements).foldlM Draft.add? ⟨nodes, place⟩ =
      some ⟨nodes ++ sheets.map fun sheet =>
        (sheet.name, .table true false (leaves sheet.entries)), last⟩ := by
  induction sheets generalizing nodes place with
  | nil => exact ⟨place, by simp⟩
  | cons sheet sheets ih =>
      obtain ⟨hsheet, hsheets⟩ := List.forall_mem_cons.mp hsound
      rw [List.map_cons, List.nodup_cons] at hnodup
      have hname := hnodes sheet.name List.mem_cons_self
      have hlater : ∀ name ∈ sheets.map Sheet.name,
          name ∉ (nodes ++ [(sheet.name, Node.table true false (leaves sheet.entries))]).map
            Prod.fst := by
        intro name hmem
        have hne : name ≠ sheet.name := fun heq => hnodup.1 (heq ▸ hmem)
        simpa [hne] using hnodes name (List.mem_cons_of_mem _ hmem)
      obtain ⟨last, hfold⟩ := ih hsheets hnodup.2 hlater [sheet.name]
      refine ⟨last, ?_⟩
      rw [List.flatMap_cons, List.foldlM_append, foldlM_sheet hname hsheet rfl,
        Option.bind_eq_bind, Option.bind_some, hfold, List.map_cons, List.append_assoc,
        List.singleton_append]

theorem entryValues_eq_map (nodes : List (String × Node)) :
    entryValues nodes = nodes.map fun node => (node.1, node.2.toValue) := by
  induction nodes with
  | nil => rfl
  | cons node nodes ih => rw [entryValues, ih, List.map_cons]

theorem entryValues_leaves (entries : List (String × Value)) :
    entryValues (leaves entries) = entries := by
  rw [entryValues_eq_map, leaves, List.map_map]
  exact List.map_id entries

theorem parse?_of_yields {text : String} {statements : List Statement} {draft : Draft}
    (hfirst : ∀ c ∈ text.toList.head?, c.toNat ≠ 0xFEFF) (hyields : Yields text.toList statements)
    (hdraft : statements.foldlM Draft.add? {} = some draft) :
    parse? text = some (entryValues draft.nodes) := by
  have hparse : parse? text = (statements? (text.toList.length + 1) text.toList).bind
      fun statements => (statements.foldlM Draft.add? {}).bind fun draft =>
        some (entryValues draft.nodes) := by
    unfold parse?
    cases hchars : text.toList with
    | nil => rfl
    | cons c rest =>
        dsimp only
        rw [if_neg (hfirst c (by rw [hchars]; rfl))]
        rfl
  rw [hparse, hyields _ (Nat.lt_succ_self _), Option.bind_some, hdraft, Option.bind_some]

/-- A document begins with a bracket if there is anything in it. -/
theorem head?_sheets {sheets : List Sheet} (behind : String) (hsheets : sheets ≠ []) :
    ("\n".intercalate (sheets.map Sheet.write) ++ behind).toList.head? = some '[' := by
  obtain ⟨sheet, sheets, rfl⟩ := List.exists_cons_of_ne_nil hsheets
  have hopen : "[".toList = ['['] := rfl
  cases sheets with
  | nil => simp [Sheet.write_eq, hopen]
  | cons next sheets => simp [String.intercalate_cons_cons, Sheet.write_eq, hopen]

/-- A document of sheets is read as their tables, also if another line end follows. -/
theorem parse?_sheets {sheets : List Sheet} (hsheets : sheets ≠ [])
    (hsound : ∀ sheet ∈ sheets, sheet.Sound) (hnodup : (sheets.map Sheet.name).Nodup)
    {behind : String} (hbehind : behind = "" ∨ behind = "\n") :
    parse? ("\n".intercalate (sheets.map Sheet.write) ++ behind) =
      some (sheets.map fun sheet => (sheet.name, .table sheet.entries)) := by
  have hrest : Yields behind.toList [] := by
    rcases hbehind with rfl | rfl
    · exact Yields.nil
    · exact Yields.nil.emptyLine
  have hyields := yields_sheets hsound hrest
  rw [← String.toList_append] at hyields
  have hnew : ∀ name ∈ sheets.map Sheet.name, name ∉ ([] : List (String × Node)).map Prod.fst :=
    fun _ _ => List.not_mem_nil
  obtain ⟨last, hfold⟩ := foldlM_sheets hsound hnodup hnew []
  have hfirst : ∀ c ∈ ("\n".intercalate (sheets.map Sheet.write) ++ behind).toList.head?,
      c.toNat ≠ 0xFEFF := by
    rw [head?_sheets behind hsheets]
    rintro c hc
    cases hc
    decide
  rw [parse?_of_yields hfirst hyields hfold, entryValues_eq_map, List.nil_append, List.map_map]
  refine congrArg some (List.map_congr_left fun sheet _ => ?_)
  rw [Function.comp_apply, Node.toValue, entryValues_leaves]

end Rescan.Toml
