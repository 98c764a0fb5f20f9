import Rescan.Proofs.Url.Hosts

/-! # Plain paths

A path that begins with a slash, with plain segments between its slashes, takes the place of the
path of a base as it is written.
-/

namespace Rescan.Url

/-! ## Segments -/

/-- The characters of plain segments. -/
def segmentChars : List Char :=
  "ABCDEFGHIJKLMNOPQRSTUVWXYZabcdefghijklmnopqrstuvwxyz0123456789._~-".toList

/-- The parts of a path between its slashes, without what precedes the first one. -/
def pathSegments (path : String) : List (List Char) := (path.toList.drop 1).splitOn '/'

/-- A path that begins with a slash. Its segments have plain characters and are no dots, and none
but the last one is empty. -/
structure IsPlainPath (path : String) : Prop where
  rooted : path.toList.head? = some '/'
  chars : ∀ segment ∈ pathSegments path, ∀ c ∈ segment, c ∈ segmentChars
  nonempty : [] ∉ (pathSegments path).dropLast
  no_dots : ['.'] ∉ pathSegments path ∧ ['.', '.'] ∉ pathSegments path

/-- Without a backslash the parts of a text are those between the slashes. -/
theorem splitSegments_eq_splitOn {special : Bool} {cs : List Char}
    (hspecial : special = true → '\\' ∉ cs) : splitSegments special cs = cs.splitOn '/' := by
  induction cs with
  | nil => rfl
  | cons c cs ih =>
      have hcs : special = true → '\\' ∉ cs := fun h hmem =>
        hspecial h (List.mem_cons_of_mem _ hmem)
      have hc : ¬(special = true ∧ c = '\\') := fun ⟨h, hslash⟩ =>
        hspecial h (hslash ▸ List.mem_cons_self)
      rw [splitSegments, ih hcs, List.splitOn_cons_eq_if_modifyHead]
      by_cases hslash : c = '/'
      · simp [hslash]
      · cases hsegments : cs.splitOn '/' with
        | nil => exact absurd hsegments (List.splitOn_ne_nil _ _)
        | cons segment more => simp [hslash, hc]

theorem pathSegments_eq (path : String) :
    pathSegments path = splitSegments false (path.toList.drop 1) :=
  (splitSegments_eq_splitOn (by simp)).symm

instance : DecidablePred IsPlainPath := fun path =>
  decidable_of_iff
    (path.toList.head? = some '/' ∧
      (splitSegments false (path.toList.drop 1)).all (·.all (segmentChars.contains ·)) = true ∧
      [] ∉ (splitSegments false (path.toList.drop 1)).dropLast ∧
      ['.'] ∉ splitSegments false (path.toList.drop 1) ∧
      ['.', '.'] ∉ splitSegments false (path.toList.drop 1))
    ⟨fun ⟨hroot, hchars, hnonempty, hdots⟩ =>
      ⟨hroot, by simpa [pathSegments_eq] using hchars, pathSegments_eq path ▸ hnonempty,
        pathSegments_eq path ▸ hdots⟩,
      fun h => ⟨h.rooted, by simpa [pathSegments_eq] using h.chars,
        pathSegments_eq path ▸ h.nonempty, pathSegments_eq path ▸ h.no_dots⟩⟩

/-- The parts between slashes with a slash before each of them are the text with one slash more. -/
theorem flatMap_splitOn (cs : List Char) : (cs.splitOn '/').flatMap ('/' :: ·) = '/' :: cs := by
  induction cs with
  | nil => simp [List.splitOn_nil]
  | cons c cs ih =>
      rw [List.splitOn_cons_eq_if_modifyHead]
      by_cases hslash : c = '/'
      · simp [hslash, ih]
      · cases hsegments : cs.splitOn '/' with
        | nil => exact absurd hsegments (List.splitOn_ne_nil _ _)
        | cons segment more =>
            rw [hsegments, List.flatMap_cons, List.cons_append, List.cons.injEq] at ih
            simp [hslash, ih.2]

theorem toList_render_segments (segments : List (List Char)) :
    (Path.segments (segments.map String.ofList)).render.toList = segments.flatMap ('/' :: ·) := by
  rw [Path.render, List.map_map]
  induction segments with
  | nil => rfl
  | cons segment segments ih =>
      rw [List.map_cons, String.join_cons, String.toList_append, ih]
      simp

/-! ## Plain segments -/

/-- A character of a plain segment is written as it is. It does not become a percent sign in lower
case, nor a dot if it is none. -/
theorem segmentChar_spec {c : Char} (hc : c ∈ segmentChars) :
    (Percent.isPrintable c && !Percent.pathSet.contains c) = true ∧ c.toLower ≠ '%' ∧
      (c.toLower = '.' → c = '.') ∧ c ≠ '\\' ∧ 0x20 < c.toNat := by
  have hall : segmentChars.all (fun c => decide
      ((Percent.isPrintable c && !Percent.pathSet.contains c) = true ∧ c.toLower ≠ '%' ∧
        (c.toLower = '.' → c = '.') ∧ c ≠ '\\' ∧ 0x20 < c.toNat)) = true := by
    decide
  exact of_decide_eq_true (List.all_eq_true.mp hall c hc)

section Segment

variable {segment : List Char} (hchars : ∀ c ∈ segment, c ∈ segmentChars)

include hchars

theorem encode_segment : Percent.encode Percent.pathSet segment = segment := by
  have hplain : ∀ c ∈ segment,
      (if Percent.isPrintable c && !Percent.pathSet.contains c then [c]
        else (String.utf8EncodeChar c).flatMap Percent.encodeByte) = [c] := fun c hc =>
    if_pos (segmentChar_spec (hchars c hc)).1
  rw [Percent.encode, List.flatMap_congr hplain, List.flatMap_singleton']

theorem percent_not_mem_lower : '%' ∉ segment.map Char.toLower := by
  intro hmem
  obtain ⟨c, hc, hlower⟩ := List.mem_map.mp hmem
  exact (segmentChar_spec (hchars c hc)).2.1 hlower

theorem eq_replicate_of_lower {n : Nat}
    (hlower : segment.map Char.toLower = List.replicate n '.') :
    segment = List.replicate n '.' := by
  rw [List.eq_replicate_iff] at hlower ⊢
  obtain ⟨hlength, hdots⟩ := hlower
  refine ⟨by simpa using hlength, fun c hc => ?_⟩
  exact (segmentChar_spec (hchars c hc)).2.2.1 (hdots _ (List.mem_map_of_mem hc))

/-- A plain segment stands for the place where it is only if it is a dot. -/
theorem isSingleDot_segment (hdot : segment ≠ ['.']) : isSingleDot segment = false := by
  have hpercent := percent_not_mem_lower hchars
  rw [isSingleDot, Bool.eq_false_iff]
  simp only [ne_eq, List.contains_iff_mem, List.mem_cons, List.not_mem_nil, or_false, not_or]
  refine ⟨fun h => hdot (eq_replicate_of_lower hchars (n := 1) h), fun h => ?_⟩
  exact hpercent (h ▸ by decide)

/-- A plain segment stands for the place above only if it is two dots. -/
theorem isDoubleDot_segment (hdots : segment ≠ ['.', '.']) : isDoubleDot segment = false := by
  have hpercent := percent_not_mem_lower hchars
  rw [isDoubleDot, Bool.eq_false_iff]
  simp only [ne_eq, List.contains_iff_mem, List.mem_cons, List.not_mem_nil, or_false, not_or]
  refine ⟨fun h => hdots (eq_replicate_of_lower hchars (n := 2) h), ?_, ?_, ?_⟩
  all_goals exact fun h => hpercent (h ▸ by decide)

end Segment

theorem keptSegment_of_not_file (before : List (List Char)) (segment : List Char) :
    keptSegment false before segment = segment := by
  unfold keptSegment
  split <;> simp

/-- Segments that are no dots are put one on the other. -/
theorem pushSegments_plain {segments : List (List Char)}
    (hplain : ∀ segment ∈ segments, isSingleDot segment = false ∧ isDoubleDot segment = false)
    (before : List (List Char)) :
    pushSegments false before segments = segments.reverse ++ before := by
  induction segments generalizing before with
  | nil => rfl
  | cons segment segments ih =>
      obtain ⟨⟨hsingle, hdouble⟩, hsegments⟩ := List.forall_mem_cons.mp hplain
      rw [pushSegments, hsingle, hdouble, if_neg (by simp), if_neg (by simp),
        keptSegment_of_not_file, ih hsegments]
      simp

/-! ## Joining -/

namespace IsPlainPath

variable {path : String} (hpath : IsPlainPath path)

include hpath

theorem exists_eq_cons :
    ∃ rest, path.toList = '/' :: rest ∧ pathSegments path = rest.splitOn '/' := by
  obtain ⟨rest, hrest⟩ := List.head?_eq_some_iff.mp hpath.rooted
  exact ⟨rest, hrest, by rw [pathSegments, hrest]; rfl⟩

/-- The path is written as its segments with a slash before each of them. -/
theorem render_segments :
    (Path.segments ((pathSegments path).map String.ofList)).render = path := by
  obtain ⟨rest, hrest, hsegments⟩ := hpath.exists_eq_cons
  rw [← String.toList_inj, toList_render_segments, hsegments, flatMap_splitOn, hrest]

theorem eq_slash_or_mem {c : Char} (hc : c ∈ path.toList) : c = '/' ∨ c ∈ segmentChars := by
  obtain ⟨rest, hrest, hsegments⟩ := hpath.exists_eq_cons
  rw [hrest, ← flatMap_splitOn, ← hsegments] at hc
  obtain ⟨segment, hsegment, hc⟩ := List.mem_flatMap.mp hc
  exact (List.mem_cons.mp hc).imp_right (hpath.chars segment hsegment c)

theorem backslash_not_mem : '\\' ∉ path.toList := by
  intro hmem
  rcases hpath.eq_slash_or_mem hmem with h | h
  · cases h
  · exact (segmentChar_spec h).2.2.2.1 rfl

/-- A plain path leads to its segments. -/
theorem pathFrom_eq {rest : List Char} (hrest : path.toList = '/' :: rest) {scheme : String}
    (hfile : scheme ≠ "file") :
    pathFrom scheme [] rest = .segments ((pathSegments path).map String.ofList) := by
  have hsplit : splitSegments (isSpecial scheme) rest = pathSegments path := by
    rw [pathSegments, hrest]
    exact splitSegments_eq_splitOn fun _ hmem =>
      hpath.backslash_not_mem (hrest ▸ List.mem_cons_of_mem _ hmem)
  have hwritten : (pathSegments path).map (Percent.encode Percent.pathSet) = pathSegments path :=
    (List.map_congr_left fun segment hsegment =>
      encode_segment (hpath.chars segment hsegment)).trans (List.map_id _)
  have hplain : ∀ segment ∈ pathSegments path,
      isSingleDot segment = false ∧ isDoubleDot segment = false := fun segment hsegment =>
    ⟨isSingleDot_segment (hpath.chars segment hsegment) fun h => hpath.no_dots.1 (h ▸ hsegment),
      isDoubleDot_segment (hpath.chars segment hsegment) fun h => hpath.no_dots.2 (h ▸ hsegment)⟩
  have hscheme : (scheme == "file") = false := beq_false_of_ne hfile
  simp only [pathFrom, hsplit, hwritten, hscheme, List.map_nil, List.reverse_nil,
    pushSegments_plain hplain, List.append_nil, List.reverse_reverse, Bool.false_eq_true, if_false]

/-- No second slash begins a plain path. -/
theorem takeWhile_isAnySlash : path.toList.takeWhile isAnySlash = ['/'] := by
  obtain ⟨rest, hrest, hsegments⟩ := hpath.exists_eq_cons
  rw [hrest, List.takeWhile_cons_of_pos rfl]
  cases rest with
  | nil => rfl
  | cons c rest =>
      have hslash : c ≠ '/' := by
        rintro rfl
        refine hpath.nonempty ?_
        rw [hsegments, List.splitOn_cons_eq_if_modifyHead, if_pos (beq_self_eq_true _),
          List.dropLast_cons_of_ne_nil (List.splitOn_ne_nil _ _)]
        exact List.mem_cons_self
      have hback : c ≠ '\\' := by
        rintro rfl
        exact hpath.backslash_not_mem (hrest ▸ List.mem_cons_of_mem _ List.mem_cons_self)
      rw [List.takeWhile_cons_of_neg (by simp [isAnySlash, hslash, hback])]

/-- A plain path takes the place of the path of a base and of what follows it. -/
theorem join_eq {base : Url} (hfile : base.scheme ≠ "file") {list : List String}
    (hbase : base.path = .segments list) :
    base.join path = .ok { base with
      path := .segments ((pathSegments path).map String.ofList), query := none,
      fragment := none } := by
  obtain ⟨rest, hrest, -⟩ := hpath.exists_eq_cons
  have hsignificant : significant path = path.toList := significant_of_visible fun c hc => by
    rcases hpath.eq_slash_or_mem hc with rfl | hc
    · decide
    · exact (segmentChar_spec hc).2.2.2.2
  have habsent (c : Char) (hslash : c ≠ '/') (hc : c ∉ segmentChars) : c ∉ path.toList :=
    fun hmem => (hpath.eq_slash_or_mem hmem).elim hslash hc
  have hparts : Parts.ofChars path.toList = ⟨path.toList, none, none⟩ := by
    rw [Parts.ofChars, cutAt_of_not_mem (habsent '#' (by decide) (by decide))]
    simp only [cutAt_of_not_mem (habsent '?' (by decide) (by decide))]
  have hscheme : scheme? path.toList = none := by
    rw [hrest]
    rfl
  have hrelative : readRelative base path.toList none = .ok { base with
      path := .segments ((pathSegments path).map String.ofList), query := none,
      fragment := none } := by
    rw [← hpath.pathFrom_eq hrest hfile]
    have hslashes := hpath.takeWhile_isAnySlash
    rw [hrest] at hslashes ⊢
    simp only [readRelative, hslashes]
    rfl
  have hweb : (base.scheme == "file") = false := beq_false_of_ne hfile
  simp only [join, read, hsignificant, hparts, hscheme, readWithoutScheme, hbase, hweb, hrelative,
    Bool.false_eq_true, if_false, bind, Except.bind, pure, Except.pure]
  rfl

end IsPlainPath

end Rescan.Url
