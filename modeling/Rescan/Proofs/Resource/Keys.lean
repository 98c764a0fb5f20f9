import Mathlib
import Rescan.Resource.Key

/-! # Kinds and keys as texts

A kind is known by its name, and a key by its rendered text: reading the name or the text gives
the kind or the key back. The texts that can be read are told by their colons alone.
-/

namespace Rescan

/-! ## Trimming and lower case -/

namespace Text

theorem trimWhile_trimWhile (p : Char → Bool) (cs : List Char) :
    trimWhile p (trimWhile p cs) = trimWhile p cs := by
  have hstart : (trimWhile p cs).dropWhile p = trimWhile p cs := by
    -- What is dropped at the end leaves the first character in its place.
    have hcut : trimWhile p cs <+: cs.dropWhile p := List.rdropWhile_prefix p (cs.dropWhile p)
    rw [List.dropWhile_eq_self_iff]
    intro hlength
    rw [hcut.getElem hlength]
    exact List.dropWhile_eq_self_iff.mp (List.dropWhile_idempotent p cs)
      (Nat.lt_of_lt_of_le hlength hcut.length_le)
  rw [trimWhile, hstart]
  exact List.rdropWhile_idempotent p (cs.dropWhile p)

/-- A change of characters that tells no more and no fewer of them goes before or after trimming. -/
theorem trimWhile_map {p : Char → Bool} {f : Char → Char} (hf : ∀ c, p (f c) = p c)
    (cs : List Char) : trimWhile p (cs.map f) = (trimWhile p cs).map f := by
  have hcomp : p ∘ f = p := funext hf
  rw [trimWhile, trimWhile, dropEndWhile, dropEndWhile, List.dropWhile_map, hcomp,
    ← List.map_reverse, List.dropWhile_map, hcomp, ← List.map_reverse]

theorem toNat_toLower (c : Char) :
    c.toLower.toNat = if 65 ≤ c.toNat ∧ c.toNat ≤ 90 then c.toNat + 32 else c.toNat := by
  have hguard : (c.val ≥ 'A'.val ∧ c.val ≤ 'Z'.val) ↔ 65 ≤ c.toNat ∧ c.toNat ≤ 90 := Iff.rfl
  unfold Char.toLower
  split
  next hupper =>
    rw [if_pos (hguard.mp hupper)]
    have hle : c.val.toNat ≤ 90 := (hguard.mp hupper).2
    change (c.val + 32).toNat = c.val.toNat + 32
    rw [UInt32.toNat_add]
    exact Nat.mod_eq_of_lt (by change c.val.toNat + 32 < 2 ^ 32; omega)
  next hother => rw [if_neg (hguard.not.mp hother)]

theorem isBlank_toLower (c : Char) : isBlank c.toLower = isBlank c := by
  unfold isBlank
  rw [toNat_toLower]
  split
  · grind
  · rfl

theorem toLower_eq_colon_iff (c : Char) : c.toLower = ':' ↔ c = ':' := by
  have hcolon : ':'.toNat = 58 := rfl
  rw [← Char.toNat_inj, ← Char.toNat_inj, toNat_toLower, hcolon]
  split <;> omega

@[simp] theorem toList_trim (s : String) : (trim s).toList = trimWhile isBlank s.toList :=
  String.toList_ofList

@[simp] theorem toList_asciiLower (s : String) :
    (asciiLower s).toList = s.toList.map Char.toLower := String.toList_ofList

/-- A trimmed text in lower case stays as it is when it is trimmed and put in lower case again. -/
theorem trim_asciiLower_trim (s : String) :
    trim (asciiLower (trim s)) = asciiLower (trim s) := by
  rw [← String.toList_inj, toList_trim, toList_asciiLower, toList_trim,
    trimWhile_map isBlank_toLower, trimWhile_trimWhile]

theorem asciiLower_asciiLower (s : String) : asciiLower (asciiLower s) = asciiLower s := by
  simp [← String.toList_inj]

end Text

namespace Resource

namespace Kind

/-- A name is accepted just if something is left of it after trimming and no colon is among that. -/
theorem ofName_eq_ok_iff {name : String} {kind : Kind} :
    ofName name = .ok kind ↔ Text.trim name ≠ "" ∧ ':' ∉ (Text.trim name).toList ∧
      kind = ⟨Text.asciiLower (Text.trim name)⟩ := by
  simp only [ofName]
  split
  next hempty => simp [String.isEmpty_iff.mp hempty]
  next hnonempty =>
    rw [String.isEmpty_iff] at hnonempty
    by_cases hcolon : ':' ∈ (Text.trim name).toList
    · simp only [List.contains_iff_mem, hcolon, if_true, not_true_eq_false, false_and, and_false,
        reduceCtorEq]
    · simp only [List.contains_iff_mem, hcolon, if_false, hnonempty, ne_eq, not_false_eq_true,
        true_and, Except.ok.injEq]
      exact eq_comm

section Accepted

variable {name : String} {kind : Kind} (hkind : ofName name = .ok kind)

include hkind

theorem colon_not_mem_of_ofName : ':' ∉ kind.name.toList := by
  obtain ⟨_, hcolon, rfl⟩ := ofName_eq_ok_iff.mp hkind
  simpa [Text.toLower_eq_colon_iff] using hcolon

theorem name_ne_empty_of_ofName : kind.name ≠ "" := by
  obtain ⟨hnonempty, _, rfl⟩ := ofName_eq_ok_iff.mp hkind
  rw [ne_eq, ← String.toList_inj] at hnonempty ⊢
  simpa using hnonempty

/-- The name of a kind stands for the kind. -/
theorem ofName_name : ofName kind.name = .ok kind := by
  have hcolon := colon_not_mem_of_ofName hkind
  have hnonempty := name_ne_empty_of_ofName hkind
  obtain ⟨_, _, rfl⟩ := ofName_eq_ok_iff.mp hkind
  rw [ofName_eq_ok_iff, Text.trim_asciiLower_trim]
  exact ⟨hnonempty, hcolon, by rw [Text.asciiLower_asciiLower]⟩

end Accepted

end Kind

namespace Key

/-! ## Rendering and reading -/

theorem cutColon?_eq_some_iff {cs before after : List Char} :
    cutColon? cs = some (before, after) ↔ cs = before ++ ':' :: after ∧ ':' ∉ before := by
  induction cs generalizing before with
  | nil => simp [cutColon?]
  | cons c rest ih =>
      rw [cutColon?]
      by_cases hcolon : c = ':'
      · rw [if_pos hcolon]
        cases before with
        | nil => simp [hcolon]
        | cons first before =>
            refine iff_of_false (by simp) fun ⟨hsame, hnot⟩ => hnot ?_
            rw [← (List.cons.inj hsame).1, hcolon]
            exact List.mem_cons_self
      · rw [if_neg hcolon, Option.map_eq_some_iff]
        cases before with
        | nil => simp [hcolon]
        | cons first before =>
            rw [List.cons_append, List.cons.injEq, List.mem_cons, not_or, and_assoc]
            constructor
            · rintro ⟨⟨other, found⟩, hcut, hsame⟩
              obtain ⟨⟨rfl, rfl⟩, rfl⟩ : (c = first ∧ other = before) ∧ found = after := by
                simpa using hsame
              exact ⟨rfl, (ih.mp hcut).1, Ne.symm hcolon, (ih.mp hcut).2⟩
            · rintro ⟨rfl, hrest, _, hnot⟩
              exact ⟨(before, after), ih.mpr ⟨hrest, hnot⟩, rfl⟩

theorem cutColon?_append {before : List Char} (after : List Char) (hbefore : ':' ∉ before) :
    cutColon? (before ++ ':' :: after) = some (before, after) :=
  cutColon?_eq_some_iff.mpr ⟨rfl, hbefore⟩

/-- A list is cut at its first colon in one way only. -/
theorem eq_of_append_colon {before after other later : List Char} (hbefore : ':' ∉ before)
    (hother : ':' ∉ other) (hsame : before ++ ':' :: after = other ++ ':' :: later) :
    before = other ∧ after = later := by
  have hcut := cutColon?_append after hbefore
  rw [hsame, cutColon?_append _ hother] at hcut
  cases hcut
  exact ⟨rfl, rfl⟩

theorem toList_render (key : Key) :
    key.render.toList = key.kind.toList ++ ':' :: (key.ns.toList ++ ':' :: key.name.toList) := by
  simp [render]

/-- Kind and namespace are told by the first two colons, whatever the name is. -/
theorem eq_of_render_eq {first second : Key} (hfirst : ':' ∉ first.kind.toList)
    (hsecond : ':' ∉ second.kind.toList) (hfirstNs : ':' ∉ first.ns.toList)
    (hsecondNs : ':' ∉ second.ns.toList) (hrender : first.render = second.render) :
    first = second := by
  rw [← String.toList_inj, toList_render, toList_render] at hrender
  obtain ⟨hkind, hrest⟩ := eq_of_append_colon hfirst hsecond hrender
  obtain ⟨hns, hname⟩ := eq_of_append_colon hfirstNs hsecondNs hrest
  rw [String.toList_inj] at hkind hns hname
  cases first
  cases second
  exact congr (congr (congrArg mk hkind) hns) hname

/-- What makes the text of a key readable: a kind and a name, and no colon in any part. -/
structure Readable (key : Key) : Prop where
  kind_ne : key.kind ≠ ""
  kind_plain : ':' ∉ key.kind.toList
  ns_plain : ':' ∉ key.ns.toList
  name_ne : key.name ≠ ""
  name_plain : ':' ∉ key.name.toList

theorem read?_eq_some_iff {text : String} {key : Key} :
    read? text = some key ↔ key.render = text ∧ key.Readable := by
  rw [← String.toList_inj, toList_render]
  constructor
  · intro hread
    obtain ⟨⟨kind, rest⟩, hkind, hread⟩ := Option.bind_eq_some_iff.mp hread
    obtain ⟨⟨ns, name⟩, hns, hread⟩ := Option.bind_eq_some_iff.mp hread
    obtain ⟨htext, hkindPlain⟩ := cutColon?_eq_some_iff.mp hkind
    obtain ⟨hrest, hnsPlain⟩ := cutColon?_eq_some_iff.mp hns
    dsimp only at hread
    split at hread
    · cases hread
    next hparts =>
      cases hread
      simp only [Bool.or_eq_true, List.isEmpty_iff, List.contains_iff_mem, not_or] at hparts
      obtain ⟨⟨hkindNe, hnameNe⟩, hnamePlain⟩ := hparts
      refine ⟨?_, ?_⟩
      · simp only [String.toList_ofList]
        rw [htext, hrest]
      · constructor <;> simpa [← String.toList_inj]
  · rintro ⟨htext, hreadable⟩
    rw [read?, ← htext, cutColon?_append _ hreadable.kind_plain]
    simp only [Option.bind_eq_bind, Option.bind_some]
    rw [cutColon?_append _ hreadable.ns_plain]
    simp only [Option.bind_some, String.ofList_toList]
    rw [if_neg (by simp [hreadable.kind_ne, hreadable.name_ne, hreadable.name_plain])]

/-- Reading gives a key just for the text of this key, if that is readable. -/
theorem parse_eq_ok_iff {text : String} {key : Key} :
    parse text = .ok key ↔ key.render = text ∧ key.Readable := by
  rw [← read?_eq_some_iff, parse]
  cases read? text <;> simp

theorem count_render (key : Key) :
    key.render.toList.count ':' =
      key.kind.toList.count ':' + key.ns.toList.count ':' + key.name.toList.count ':' + 2 := by
  simp only [toList_render, List.count_append, List.count_cons_self]
  omega

theorem Readable.count_render {key : Key} (hreadable : key.Readable) :
    key.render.toList.count ':' = 2 := by
  rw [Key.count_render, List.count_eq_zero_of_not_mem hreadable.kind_plain,
    List.count_eq_zero_of_not_mem hreadable.ns_plain,
    List.count_eq_zero_of_not_mem hreadable.name_plain]

/-- From the text of a key no other key is read. -/
theorem parse_render_eq_ok_iff {key other : Key} (hkind : ':' ∉ key.kind.toList) :
    parse key.render = .ok other ↔ other = key ∧ key.Readable := by
  rw [parse_eq_ok_iff]
  constructor
  · rintro ⟨hrender, hreadable⟩
    have hns : ':' ∉ key.ns.toList := by
      have hcount := hreadable.count_render
      rw [hrender, count_render] at hcount
      exact List.count_eq_zero.mp (by omega)
    have hsame := eq_of_render_eq hreadable.kind_plain hkind hreadable.ns_plain hns hrender
    exact ⟨hsame, hsame ▸ hreadable⟩
  · rintro ⟨rfl, hreadable⟩
    exact ⟨rfl, hreadable⟩

/-- From the text of a key no other key is read, whatever its kind is. -/
theorem eq_of_parse_render {key other : Key} (hparse : parse key.render = .ok other) :
    other = key := by
  have hcount : key.render.toList.count ':' = 2 := by
    obtain ⟨hrender, hreadable⟩ := parse_eq_ok_iff.mp hparse
    rw [← hrender]
    exact hreadable.count_render
  have hkind : ':' ∉ key.kind.toList := by
    rw [count_render] at hcount
    exact List.count_eq_zero.mp (by omega)
  exact ((parse_render_eq_ok_iff hkind).mp hparse).1

/-- A text from which no key is read is told in the fault. -/
theorem parse_cases (text : String) :
    (∃ key, parse text = .ok key) ∨ parse text = .error (.invalidKey text) := by
  unfold parse
  split
  next key _ => exact Or.inl ⟨key, rfl⟩
  · exact Or.inr rfl

/-! ## The grammar of texts -/

theorem splitOn_colon {first second third : List Char} (hfirst : ':' ∉ first)
    (hsecond : ':' ∉ second) (hthird : ':' ∉ third) :
    (first ++ ':' :: (second ++ ':' :: third)).splitOn ':' = [first, second, third] := by
  have hplain {part : List Char} (hpart : ':' ∉ part) : ∀ c ∈ part, (c == ':') = false :=
    fun c hc => beq_false_of_ne fun hcolon => hpart (hcolon ▸ hc)
  rw [List.splitOn, List.splitOnP_append_cons_of_forall_mem (hplain hfirst) ':' rfl,
    List.splitOnP_append_cons_of_forall_mem (hplain hsecond) ':' rfl,
    List.splitOnP_eq_singleton (hplain hthird)]

/-- A list with two colons has three parts. -/
theorem exists_parts_of_count {cs : List Char} (hcount : cs.count ':' = 2) :
    ∃ first second third, cs = first ++ ':' :: (second ++ ':' :: third) ∧ ':' ∉ first ∧
      ':' ∉ second ∧ ':' ∉ third := by
  have hmem : ':' ∈ cs := List.count_pos_iff.mp (by omega)
  obtain ⟨first, rest, rfl, hfirst⟩ := List.eq_append_cons_of_mem hmem
  rw [List.count_append, List.count_cons_self, List.count_eq_zero_of_not_mem hfirst] at hcount
  have hmem : ':' ∈ rest := List.count_pos_iff.mp (by omega)
  obtain ⟨second, third, rfl, hsecond⟩ := List.eq_append_cons_of_mem hmem
  rw [List.count_append, List.count_cons_self, List.count_eq_zero_of_not_mem hsecond] at hcount
  have hthird : ':' ∉ third := List.count_eq_zero.mp (by omega)
  exact ⟨first, second, third, rfl, hfirst, hsecond, hthird⟩

/-- A text can be read just if it has two colons and something before the first and after the last
of them. -/
theorem exists_parse_iff (text : String) :
    (∃ key, parse text = .ok key) ↔ text.toList.count ':' = 2 ∧
      (text.toList.splitOn ':').head? ≠ some [] ∧ (text.toList.splitOn ':').getLast? ≠ some [] := by
  constructor
  · rintro ⟨key, hparse⟩
    obtain ⟨rfl, hreadable⟩ := parse_eq_ok_iff.mp hparse
    have hcount := hreadable.count_render
    rw [toList_render] at hcount ⊢
    rw [splitOn_colon hreadable.kind_plain hreadable.ns_plain hreadable.name_plain]
    exact ⟨hcount, by simp [hreadable.kind_ne], by simp [hreadable.name_ne]⟩
  · rintro ⟨hcount, hhead, hlast⟩
    obtain ⟨kind, ns, name, htext, hkind, hns, hname⟩ := exists_parts_of_count hcount
    rw [htext, splitOn_colon hkind hns hname] at hhead hlast
    have hkindNe : kind ≠ [] := by simpa using hhead
    have hnameNe : name ≠ [] := by simpa using hlast
    refine ⟨⟨String.ofList kind, String.ofList ns, String.ofList name⟩,
      parse_eq_ok_iff.mpr ⟨?_, ?_⟩⟩
    · rw [← String.toList_inj, toList_render, htext]
      simp only [String.toList_ofList]
    · constructor <;> simpa [← String.toList_inj]

/-- A text and the keys of two kinds are given. A text can be read just if it has two colons and
something before the first and after the last of them; the key that is read renders to the text,
and if none can be read, the fault tells the text. The text of a key of a kind can be read just if
neither namespace nor name has a colon and the name is not empty; it is this key that is read, and
the kind in it stands for the kind again. Two keys with namespaces without colons have the same
text only if they agree in kind, namespace and name. -/
theorem rendered_keys_read_back (text : String) {firstName secondName : String}
    {first second : Kind} (hfirst : Kind.ofName firstName = .ok first)
    (hsecond : Kind.ofName secondName = .ok second) (ns name otherNs otherName : String) :
    ((∃ key, parse text = .ok key) ↔ text.toList.count ':' = 2 ∧
      (text.toList.splitOn ':').head? ≠ some [] ∧ (text.toList.splitOn ':').getLast? ≠ some []) ∧
    (∀ key, parse text = .ok key → key.render = text) ∧
    ((¬∃ key, parse text = .ok key) → parse text = .error (.invalidKey text)) ∧
    ((∃ key, parse (ofKind first ns name).render = .ok key) ↔
      ':' ∉ ns.toList ∧ name ≠ "" ∧ ':' ∉ name.toList) ∧
    (∀ key, parse (ofKind first ns name).render = .ok key →
      key = ofKind first ns name ∧ Kind.ofName key.kind = .ok first) ∧
    (':' ∉ ns.toList → ':' ∉ otherNs.toList →
      (ofKind first ns name).render = (ofKind second otherNs otherName).render →
      first = second ∧ ns = otherNs ∧ name = otherName) := by
  have hplain := Kind.colon_not_mem_of_ofName hfirst
  have hread (key : Key) : parse (ofKind first ns name).render = .ok key ↔
      key = ofKind first ns name ∧ (ofKind first ns name).Readable := parse_render_eq_ok_iff hplain
  refine ⟨exists_parse_iff text, fun key hparse => (parse_eq_ok_iff.mp hparse).1,
    (parse_cases text).resolve_left, ?_, fun key hparse => ?_, fun hns hother hrender => ?_⟩
  · simp only [hread, exists_eq_left]
    constructor
    · intro hreadable
      exact ⟨hreadable.ns_plain, hreadable.name_ne, hreadable.name_plain⟩
    · rintro ⟨hns, hnameNe, hname⟩
      exact ⟨Kind.name_ne_empty_of_ofName hfirst, hplain, hns, hnameNe, hname⟩
  · obtain ⟨rfl, _⟩ := (hread key).mp hparse
    exact ⟨rfl, Kind.ofName_name hfirst⟩
  · have hsame := eq_of_render_eq hplain (Kind.colon_not_mem_of_ofName hsecond) hns hother hrender
    obtain ⟨hkind, rfl, rfl⟩ := mk.inj hsame
    cases first
    cases second
    exact ⟨congrArg Kind.mk hkind, rfl, rfl⟩

/-- Two kinds, one of them named with blanks and capitals, and an object outside every namespace. A
text with three colons is no key; the object has a key of its own in each kind. -/
theorem rendered_keys_read_back_padded :
    Kind.ofName " CronJob\u2003" = .ok ⟨"cronjob"⟩ ∧ Kind.ofName "Größe" = .ok ⟨"größe"⟩ ∧
    parse "cronjob:a:b:x" = .error (.invalidKey "cronjob:a:b:x") ∧
    parse (ofKind ⟨"cronjob"⟩ "" "ночь").render = .ok (ofKind ⟨"cronjob"⟩ "" "ночь") ∧
    (ofKind ⟨"cronjob"⟩ "" "ночь").render ≠ (ofKind ⟨"größe"⟩ "" "ночь").render := by
  have hfirst : Kind.ofName " CronJob\u2003" = .ok ⟨"cronjob"⟩ := by decide +kernel
  have hsecond : Kind.ofName "Größe" = .ok ⟨"größe"⟩ := by decide +kernel
  obtain ⟨hgrammar, _, hfault, hround, hback, hapart⟩ :=
    rendered_keys_read_back "cronjob:a:b:x" hfirst hsecond "" "ночь" "" "ночь"
  refine ⟨hfirst, hsecond, hfault fun hread => ?_, ?_, fun hsame => ?_⟩
  · exact absurd (hgrammar.mp hread).1 (by decide +kernel)
  · obtain ⟨key, hkey⟩ := hround.mpr (by decide +kernel)
    obtain ⟨rfl, _⟩ := hback key hkey
    exact hkey
  · exact absurd (hapart (by decide) (by decide) hsame).1 (by decide)

end Key

end Resource

end Rescan
