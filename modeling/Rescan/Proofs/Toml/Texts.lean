import Mathlib.Data.Char
import Mathlib.Tactic.IntervalCases
import Mathlib.Tactic.SplitIfs
import Rescan.Proofs.Text.Digits
import Rescan.Toml.Text
import Rescan.Toml.Writer

/-! # Texts in TOML are read as they were written

Whatever form a text is written in, it is read as the text, as long as no further mark follows.
-/

namespace Rescan.Toml

open Rescan.Text (Stops stops_cons)

/-- What was read, behind one more character. -/
def pushChar (c : Char) (found : List Char × List Char) : List Char × List Char :=
  (c :: found.1, found.2)

/-! ## Escapes -/

/-- The written form of a character that does not stand for itself between quotation marks, and of
every other one but a quotation mark. -/
def escape (most : Nat) (c : Char) : List Char :=
  if c = '"' then ['\\', '"']
  else if c = '\x08' then ['\\', 'b']
  else if c = '\t' then ['\\', 't']
  else if c = '\n' ∧ most = 0 then ['\\', 'n']
  else if c = '\x0c' then ['\\', 'f']
  else if c = '\r' then ['\\', 'r']
  else if c = '\\' then ['\\', '\\']
  else if isControl c then
    ['\\', 'u', '0', '0', upperHex (c.toNat / 16), upperHex (c.toNat % 16)]
  else [c]

theorem escaped_cons (most run : Nat) (c : Char) (rest : List Char) :
    escaped most run (c :: rest) =
      if c = '"' ∧ run < most then '"' :: escaped most (run + 1) rest
      else escape most c ++ escaped most 0 rest := by
  rw [escaped, escape]
  by_cases hquote : c = '"'
  · by_cases hrun : run < most
    · simp [hquote, hrun]
    · simp [hquote, hrun]
  · simp only [hquote, false_and, if_false]
    split_ifs <;> rfl

theorem toNat_lt_of_isControl {c : Char} (hcontrol : isControl c = true) : c.toNat < 128 := by
  simp only [isControl, Bool.or_eq_true, Bool.and_eq_true, decide_eq_true_eq, beq_iff_eq]
    at hcontrol
  omega

theorem digitValue?_upperHex {d : Nat} (hd : d < 16) : Text.digitValue? (upperHex d) = some d := by
  interval_cases d <;> rfl

/-- The code point of a control character is read as the character. -/
theorem hexScalar?_upperHex {c : Char} (hc : c.toNat < 128) :
    hexScalar? ['0', '0', upperHex (c.toNat / 16), upperHex (c.toNat % 16)] = some c := by
  have hhigh := digitValue?_upperHex (show c.toNat / 16 < 16 by omega)
  have hlow := digitValue?_upperHex (show c.toNat % 16 < 16 by omega)
  have hzero : Text.digitValue? '0' = some 0 := rfl
  have hvalue : Text.digitsValue 16 ['0', '0', upperHex (c.toNat / 16), upperHex (c.toNat % 16)] =
      c.toNat := by
    simp only [Text.digitsValue, List.foldl_cons, List.foldl_nil, hzero, hhigh, hlow,
      Option.getD_some]
    omega
  rw [hexScalar?, if_pos, hvalue, scalar?, if_pos (by omega), Char.ofNat_toNat]
  simp [Text.isDigitOf, hzero, hhigh, hlow]
  omega

theorem isLineChar_of_not_isControl {c : Char} (hcontrol : isControl c = false) (hline : c ≠ '\n') :
    isLineChar c = true := by
  simp only [isControl, isLineChar, Bool.or_eq_false_iff, Bool.and_eq_false_iff,
    decide_eq_false_iff_not, bne_eq_false_iff_eq, beq_eq_false_iff_ne, Bool.or_eq_true,
    Bool.and_eq_true, decide_eq_true_eq, beq_iff_eq, bne_iff_ne] at hcontrol ⊢
  obtain ⟨(hlarge | htab) | hend, hdelete⟩ := hcontrol
  · exact Or.inr ⟨by omega, hdelete⟩
  · exact Or.inl htab
  · exact absurd hend hline

/-- A way of reading that takes each escape for its character and goes on after it. -/
structure ReadsEscapes (read : List Char → Option (List Char × List Char)) : Prop where
  letter : ∀ {letter c : Char}, letterEscape? letter = some c → ∀ rest,
    read ('\\' :: letter :: rest) = (read rest).map (pushChar c)
  hex : ∀ {x y z w c : Char}, hexScalar? [x, y, z, w] = some c → ∀ rest,
    read ('\\' :: 'u' :: x :: y :: z :: w :: rest) = (read rest).map (pushChar c)

/-- What is written for a character is read as the character if the characters that stand for
themselves are. -/
theorem ReadsEscapes.escape {read : List Char → Option (List Char × List Char)}
    (hread : ReadsEscapes read) {most : Nat} {c : Char}
    (hplain : isControl c = false → c ≠ '"' → c ≠ '\\' → ¬(c = '\n' ∧ most = 0) → ∀ rest,
      read (c :: rest) = (read rest).map (pushChar c)) (rest : List Char) :
    read (escape most c ++ rest) = (read rest).map (pushChar c) := by
  unfold Toml.escape
  split_ifs with hquote hback htab hend hform hreturn hslash hcontrol
  · subst hquote
    exact hread.letter rfl rest
  · subst hback
    exact hread.letter rfl rest
  · subst htab
    exact hread.letter rfl rest
  · obtain ⟨rfl, -⟩ := hend
    exact hread.letter rfl rest
  · subst hform
    exact hread.letter rfl rest
  · subst hreturn
    exact hread.letter rfl rest
  · subst hslash
    exact hread.letter rfl rest
  · exact hread.hex (hexScalar?_upperHex (toNat_lt_of_isControl hcontrol)) rest
  · exact hplain (by simpa using hcontrol) hquote hslash hend rest

/-! ## Texts on one line -/

theorem basicBody_cons {c : Char} (hline : isLineChar c = true) (hquote : c ≠ '"')
    (hescape : c ≠ '\\') (rest : List Char) :
    basicBody (c :: rest) = (basicBody rest).map (pushChar c) := by
  rw [basicBody, if_pos (by simp [hline, hescape])]
  · cases basicBody rest <;> rfl
  · exact hquote
  all_goals
    intros
    exact hescape ‹_›

theorem basicBody_readsEscapes : ReadsEscapes basicBody where
  letter := by
    intro letter c hletter rest
    rw [basicBody, hletter]
    · cases basicBody rest <;> rfl
    · rintro a b c d more rfl
      cases hletter
    · rintro a b c d e f g h more rfl
      cases hletter
  hex := by
    intro x y z w c hhex rest
    rw [basicBody, hhex]
    cases basicBody rest <;> rfl

theorem basicBody_escaped (cs rest : List Char) :
    basicBody (escaped 0 0 cs ++ '"' :: rest) = some (cs, rest) := by
  induction cs with
  | nil => rfl
  | cons c cs ih =>
      rw [escaped_cons, if_neg (by omega), List.append_assoc, basicBody_readsEscapes.escape, ih]
      · rfl
      · intro hcontrol hquote hslash hend
        exact basicBody_cons (isLineChar_of_not_isControl hcontrol fun h => hend ⟨h, rfl⟩) hquote
          hslash

theorem literalBody_append {cs : List Char} (hline : ∀ c ∈ cs, isLineChar c = true)
    (hmark : '\'' ∉ cs) (rest : List Char) :
    literalBody (cs ++ '\'' :: rest) = some (cs, rest) := by
  induction cs with
  | nil => rfl
  | cons c cs ih =>
      obtain ⟨hc, hcs⟩ := List.forall_mem_cons.mp hline
      obtain ⟨hne, hmark⟩ := List.ne_and_not_mem_of_not_mem_cons hmark
      rw [List.cons_append, literalBody, if_pos hc, ih hcs hmark]
      · rfl
      · exact hne.symm

/-! ## Texts over several lines -/

/-- At most two marks before the closing ones belong to the text. -/
theorem closing_replicate {mark : Char} {k : Nat} (hk : k ≤ 2) {rest : List Char}
    (hrest : Stops (· == mark) rest) :
    closing mark (List.replicate k mark ++ rest) = (List.replicate k mark, rest) := by
  have htake : ((List.replicate k mark ++ rest).takeWhile (· == mark)) = List.replicate k mark := by
    apply Stops.takeWhile_append _ hrest
    intro c hc
    rw [List.eq_of_mem_replicate hc, beq_self_eq_true]
  have hextra : min 2 (List.replicate k mark).length = k := by simp [hk]
  rw [closing, htake, hextra]
  simp

theorem replicate_append_triple (mark : Char) (k : Nat) (rest : List Char) :
    List.replicate k mark ++ (triple mark ++ rest) =
      triple mark ++ (List.replicate k mark ++ rest) := by
  have htriple : triple mark = List.replicate 3 mark := rfl
  rw [htriple, ← List.append_assoc, ← List.append_assoc, List.replicate_append_replicate,
    List.replicate_append_replicate, Nat.add_comm]

/-- A text that is made of closing marks alone, with at most two more of them. -/
theorem read_closing {read : List Char → Option (List Char × List Char)} {mark : Char}
    (hread : ∀ rest, read (triple mark ++ rest) = some (closing mark rest)) {k : Nat} (hk : k ≤ 2)
    {rest : List Char} (hrest : Stops (· == mark) rest) :
    read (List.replicate k mark ++ (triple mark ++ rest)) =
      some (List.replicate k mark, rest) := by
  rw [replicate_append_triple, hread, closing_replicate hk hrest]

theorem multiBasicBody_cons {c : Char} (hline : isLineChar c = true) (hescape : c ≠ '\\')
    {rest : List Char} (hmarks : c = '"' → ¬['"', '"'] <+: rest) :
    multiBasicBody false (c :: rest) = (multiBasicBody false rest).map (pushChar c) := by
  rw [multiBasicBody, if_neg (by simp), if_pos (by simp [hline, hescape])]
  · cases multiBasicBody false rest <;> rfl
  · rintro more rfl -
    cases hline
  · rintro rfl
    cases hline
  · rintro more rfl rfl
    exact hmarks rfl (List.prefix_append ['"', '"'] more)
  all_goals
    intros
    exact hescape ‹_›

theorem multiBasicBody_lineEnd (rest : List Char) :
    multiBasicBody false ('\n' :: rest) = (multiBasicBody false rest).map (pushChar '\n') := by
  rw [multiBasicBody, if_neg (by simp)]
  cases multiBasicBody false rest <;> rfl

theorem isBlank_iff {c : Char} : isBlank c = true ↔ c = ' ' ∨ c = '\t' := by
  simp [isBlank]

theorem endsLine_of_letter {letter c : Char} (hletter : letterEscape? letter = some c)
    (rest : List Char) : endsLine (letter :: rest) = false := by
  have hblank : isBlank letter = false := by
    rw [Bool.eq_false_iff]
    intro hblank
    rcases isBlank_iff.mp hblank with rfl | rfl <;> cases hletter
  rw [endsLine, skipBlanks, List.dropWhile_cons_of_neg (by simp [hblank])]
  split
  next heq =>
    cases heq
    cases hletter
  next heq =>
    cases heq
    cases hletter
  next => rfl

theorem multiBasicBody_readsEscapes : ReadsEscapes (multiBasicBody false) where
  letter := by
    intro letter c hletter rest
    rw [multiBasicBody, endsLine_of_letter hletter, if_neg (by simp), hletter]
    · cases multiBasicBody false rest <;> rfl
    · rintro a b c d more rfl
      cases hletter
    · rintro a b c d e f g h more rfl
      cases hletter
  hex := by
    intro x y z w c hhex rest
    rw [multiBasicBody, hhex]
    cases multiBasicBody false rest <;> rfl

theorem multiBasicBody_escape (c : Char) (rest : List Char) :
    multiBasicBody false (escape 2 c ++ rest) = (multiBasicBody false rest).map (pushChar c) := by
  apply multiBasicBody_readsEscapes.escape
  intro hcontrol hquote hslash _ rest
  by_cases hline : c = '\n'
  · subst hline
    exact multiBasicBody_lineEnd rest
  · exact multiBasicBody_cons (isLineChar_of_not_isControl hcontrol hline) hslash
      fun h => absurd h hquote

theorem multiBasicBody_triple (rest : List Char) :
    multiBasicBody false (triple '"' ++ rest) = some (closing '"' rest) := by
  rw [triple, List.cons_append, List.cons_append, List.cons_append, List.nil_append, multiBasicBody]

theorem exists_escape_eq_cons (most : Nat) (c : Char) :
    ∃ first more, escape most c = first :: more ∧ first ≠ '"' := by
  unfold escape
  split_ifs
  case neg => exact ⟨c, [], rfl, ‹_›⟩
  all_goals exact ⟨_, _, rfl, by decide⟩

/-- Behind a quotation mark that stands for itself there are two more only at the end. -/
theorem exists_replicate_of_marks {run : Nat} (hrun : run = 1 ∨ run = 2) {cs rest : List Char}
    (hmarks : ['"', '"'] <+: escaped 2 run cs ++ (triple '"' ++ rest)) :
    ∃ k, run + k ≤ 2 ∧ cs = List.replicate k '"' := by
  -- After a character that is escaped or no mark the text does not begin with one.
  have hfirst {run : Nat} {c : Char} {cs more : List Char} (hraw : ¬(c = '"' ∧ run < 2))
      (hmark : ['"'] <+: escaped 2 run (c :: cs) ++ more) : False := by
    obtain ⟨first, written, hescape, hne⟩ := exists_escape_eq_cons 2 c
    rw [escaped_cons, if_neg hraw, hescape] at hmark
    simp only [List.cons_append, List.cons_prefix_cons] at hmark
    exact hne hmark.1.symm
  have hone {more : List Char} (hmarks : ['"', '"'] <+: more) : ['"'] <+: more :=
    List.IsPrefix.trans ⟨['"'], rfl⟩ hmarks
  cases cs with
  | nil => exact ⟨0, by omega, rfl⟩
  | cons c cs =>
      by_cases hraw : c = '"' ∧ run < 2
      · obtain ⟨rfl, hlt⟩ := hraw
        rw [escaped_cons, if_pos ⟨rfl, hlt⟩] at hmarks
        obtain rfl : run = 1 := by omega
        simp only [List.cons_append, List.cons_prefix_cons, true_and] at hmarks
        cases cs with
        | nil => exact ⟨1, by omega, rfl⟩
        | cons d cs => exact (hfirst (by omega) hmarks).elim
      · exact (hfirst hraw (hone hmarks)).elim

theorem escaped_replicate {k run : Nat} (hk : run + k ≤ 2) :
    escaped 2 run (List.replicate k '"') = List.replicate k '"' := by
  induction k generalizing run with
  | zero => rfl
  | succ k ih =>
      rw [List.replicate_succ, escaped_cons, if_pos ⟨rfl, by omega⟩, ih (by omega)]

theorem multiBasicBody_escaped (cs : List Char) {rest : List Char}
    (hrest : Stops (· == '"') rest) {run : Nat} (hrun : run ≤ 2) :
    multiBasicBody false (escaped 2 run cs ++ (triple '"' ++ rest)) = some (cs, rest) := by
  induction cs generalizing run with
  | nil => exact read_closing multiBasicBody_triple (Nat.zero_le 2) hrest
  | cons c cs ih =>
      rw [escaped_cons]
      by_cases hraw : c = '"' ∧ run < 2
      · obtain ⟨rfl, hlt⟩ := hraw
        rw [if_pos ⟨rfl, hlt⟩, List.cons_append]
        by_cases hmarks : ['"', '"'] <+: escaped 2 (run + 1) cs ++ (triple '"' ++ rest)
        · obtain ⟨k, hk, rfl⟩ := exists_replicate_of_marks (by omega) hmarks
          rw [escaped_replicate hk]
          have hclosed : k + 1 ≤ 2 := by omega
          exact read_closing multiBasicBody_triple hclosed hrest
        · rw [multiBasicBody_cons rfl (by decide) fun _ => hmarks, ih (by omega)]
          rfl
      · rw [if_neg hraw, List.append_assoc, multiBasicBody_escape, ih (by omega)]
        rfl

/-! ## Texts without escapes over several lines -/

theorem longestRun_le_cons (mark c : Char) (cs : List Char) :
    longestRun mark cs ≤ longestRun mark (c :: cs) :=
  Nat.le_max_right _ _

theorem not_mem_of_longestRun {mark : Char} {cs : List Char} (hrun : longestRun mark cs = 0) :
    mark ∉ cs := by
  induction cs with
  | nil => exact List.not_mem_nil
  | cons c cs ih =>
      have hrest := longestRun_le_cons mark c cs
      rw [List.mem_cons, not_or]
      refine ⟨?_, ih (by omega)⟩
      rintro rfl
      simp [longestRun] at hrun

theorem multiLiteralBody_cons {c : Char} (hcontrol : isControl c = false) {rest : List Char}
    (hmarks : c = '\'' → ¬['\'', '\''] <+: rest) :
    multiLiteralBody (c :: rest) = (multiLiteralBody rest).map (pushChar c) := by
  have hline : (isLineChar c || c == '\n') = true := by
    by_cases hend : c = '\n'
    · simp [hend]
    · simp [isLineChar_of_not_isControl hcontrol hend]
  rw [multiLiteralBody, if_pos hline]
  · cases multiLiteralBody rest <;> rfl
  · rintro more rfl -
    cases hcontrol
  · rintro more rfl rfl
    exact hmarks rfl (List.prefix_append ['\'', '\''] more)

theorem multiLiteralBody_triple (rest : List Char) :
    multiLiteralBody (triple '\'' ++ rest) = some (closing '\'' rest) := by
  rw [triple, List.cons_append, List.cons_append, List.cons_append, List.nil_append,
    multiLiteralBody]

/-- Behind an apostrophe of a text without three in a row there are two more only at the end. -/
theorem exists_replicate_of_apostrophes {cs rest : List Char}
    (hrun : longestRun '\'' ('\'' :: cs) ≤ 2)
    (hmarks : ['\'', '\''] <+: cs ++ (triple '\'' ++ rest)) :
    ∃ k, k + 1 ≤ 2 ∧ cs = List.replicate k '\'' := by
  cases cs with
  | nil => exact ⟨0, by omega, rfl⟩
  | cons c cs =>
      rw [List.cons_append, List.cons_prefix_cons] at hmarks
      obtain ⟨rfl, hmark⟩ := hmarks
      cases cs with
      | nil => exact ⟨1, by omega, rfl⟩
      | cons d cs =>
          rw [List.cons_append, List.cons_prefix_cons] at hmark
          obtain ⟨rfl, -⟩ := hmark
          simp [longestRun] at hrun

theorem multiLiteralBody_append {cs : List Char} (hcontrol : ∀ c ∈ cs, isControl c = false)
    (hrun : longestRun '\'' cs ≤ 2) {rest : List Char} (hrest : Stops (· == '\'') rest) :
    multiLiteralBody (cs ++ (triple '\'' ++ rest)) = some (cs, rest) := by
  induction cs with
  | nil => exact read_closing multiLiteralBody_triple (Nat.zero_le 2) hrest
  | cons c cs ih =>
      obtain ⟨hc, hcs⟩ := List.forall_mem_cons.mp hcontrol
      have hmore := longestRun_le_cons '\'' c cs
      by_cases hmarks : c = '\'' ∧ ['\'', '\''] <+: cs ++ (triple '\'' ++ rest)
      · obtain ⟨rfl, hmarks⟩ := hmarks
        obtain ⟨k, hk, rfl⟩ := exists_replicate_of_apostrophes hrun hmarks
        exact read_closing multiLiteralBody_triple hk hrest
      · rw [List.cons_append, multiLiteralBody_cons hc fun heq hprefix => hmarks ⟨heq, hprefix⟩,
          ih hcs (by omega)]
        rfl

/-! ## The four forms -/

theorem text?_basic (cs : List Char) {rest : List Char} (hrest : Stops (· == '"') rest) :
    text? ('"' :: (escaped 0 0 cs ++ '"' :: rest)) = some (cs, rest) := by
  have hread := basicBody_escaped cs rest
  rw [text?]
  · exact hread
  · intro more heq
    have hmore := (List.cons.inj heq).2
    -- Three marks in a row cannot be the marks around a text.
    cases cs with
    | nil =>
        cases hmore
        exact absurd (stops_cons.mp hrest) (by decide)
    | cons c cs =>
        obtain ⟨first, written, hescape, hne⟩ := exists_escape_eq_cons 0 c
        rw [escaped_cons, if_neg (by omega), hescape] at hmore
        exact hne (List.cons.inj hmore).1
  · intro more heq
    cases heq

theorem text?_literal {cs : List Char} (hline : ∀ c ∈ cs, isLineChar c = true)
    (hmark : '\'' ∉ cs) {rest : List Char} (hrest : Stops (· == '\'') rest) :
    text? ('\'' :: (cs ++ '\'' :: rest)) = some (cs, rest) := by
  have hread := literalBody_append hline hmark rest
  rw [text?]
  · exact hread
  · intro more heq
    cases heq
  · intro more heq
    have hmore := (List.cons.inj heq).2
    cases cs with
    | nil =>
        cases hmore
        exact absurd (stops_cons.mp hrest) (by decide)
    | cons c cs =>
        obtain ⟨rfl, -⟩ := List.cons.inj hmore
        exact hmark List.mem_cons_self

theorem dropLineEnd_cons {c : Char} (hend : c ≠ '\n') (hreturn : c ≠ '\r') (rest : List Char) :
    dropLineEnd (c :: rest) = c :: rest := by
  rw [dropLineEnd]
  · intro more heq
    exact hend (List.cons.inj heq).1
  · intro more heq
    exact hreturn (List.cons.inj heq).1

/-- The line end that a text over several lines begins with. -/
def opening (cs : List Char) : List Char := if cs.contains '\n' then ['\n'] else []

/-- Behind three opening marks the line end is dropped that was written for a text with line ends,
and no other one. -/
theorem dropLineEnd_opening {cs written : List Char}
    (hfirst : '\n' ∉ cs → ∃ c more, written = c :: more ∧ c ≠ '\n' ∧ c ≠ '\r') :
    dropLineEnd (opening cs ++ written) = written := by
  by_cases hmem : '\n' ∈ cs
  · rw [opening, if_pos (by simpa using hmem)]
    rfl
  · obtain ⟨c, more, rfl, hend, hreturn⟩ := hfirst hmem
    rw [opening, if_neg (by simpa using hmem)]
    exact dropLineEnd_cons hend hreturn more

theorem exists_escape_eq_cons_of_ne (most : Nat) {c : Char} (hend : c ≠ '\n') :
    ∃ first more, escape most c = first :: more ∧ first ≠ '\n' ∧ first ≠ '\r' := by
  unfold escape
  split_ifs
  case neg => exact ⟨c, [], rfl, hend, ‹_›⟩
  all_goals exact ⟨_, _, rfl, by decide, by decide⟩

theorem text?_multiBasic (cs : List Char) {rest : List Char} (hrest : Stops (· == '"') rest) :
    text? (triple '"' ++ (opening cs ++ (escaped 2 0 cs ++ (triple '"' ++ rest)))) =
      some (cs, rest) := by
  have hread (more : List Char) :
      text? (triple '"' ++ more) = multiBasicBody false (dropLineEnd more) := rfl
  rw [hread, dropLineEnd_opening, multiBasicBody_escaped cs hrest (by omega)]
  intro hmem
  cases cs with
  | nil => exact ⟨'"', _, rfl, by decide, by decide⟩
  | cons c cs =>
      rw [escaped_cons]
      split
      · exact ⟨'"', _, rfl, by decide, by decide⟩
      · have hne : c ≠ '\n' := fun h => hmem (h ▸ List.mem_cons_self)
        obtain ⟨first, more, hescape, hend, hreturn⟩ := exists_escape_eq_cons_of_ne 2 hne
        exact ⟨first, _, by rw [hescape]; rfl, hend, hreturn⟩

theorem text?_multiLiteral {cs : List Char} (hcontrol : ∀ c ∈ cs, isControl c = false)
    (hrun : longestRun '\'' cs ≤ 2) {rest : List Char} (hrest : Stops (· == '\'') rest) :
    text? (triple '\'' ++ (opening cs ++ (cs ++ (triple '\'' ++ rest)))) = some (cs, rest) := by
  have hread (more : List Char) :
      text? (triple '\'' ++ more) = multiLiteralBody (dropLineEnd more) := rfl
  rw [hread, dropLineEnd_opening, multiLiteralBody_append hcontrol hrun hrest]
  intro hmem
  cases cs with
  | nil => exact ⟨'\'', _, rfl, by decide, by decide⟩
  | cons c cs =>
      refine ⟨c, _, rfl, fun h => hmem (h ▸ List.mem_cons_self), ?_⟩
      rintro rfl
      exact absurd (hcontrol '\r' List.mem_cons_self) (by decide)

theorem of_formOf_eq_literal {cs : List Char} (hform : formOf cs = .literal) :
    cs.any isControl = false ∧ longestRun '\'' cs = 0 ∧ cs.contains '\n' = false := by
  simp only [formOf] at hform
  split_ifs at hform with _ hliteral
  simp only [Bool.and_eq_true, Bool.not_eq_true', beq_iff_eq] at hliteral
  exact ⟨hliteral.1.1, hliteral.1.2, hliteral.2⟩

theorem of_formOf_eq_multiLiteral {cs : List Char} (hform : formOf cs = .multiLiteral) :
    cs.any isControl = false ∧ longestRun '\'' cs ≤ 2 := by
  simp only [formOf] at hform
  split_ifs at hform with _ _ _ hliteral
  simpa using hliteral

/-- A text is read as it was written when no mark comes after it. -/
theorem text?_writeChars (cs : List Char) {rest : List Char} (hquote : Stops (· == '"') rest)
    (hapostrophe : Stops (· == '\'') rest) :
    text? (writeChars cs ++ rest) = some (cs, rest) := by
  have hbasic : text? ('"' :: (escaped 0 0 cs ++ ['"']) ++ rest) = some (cs, rest) := by
    simpa using text?_basic cs hquote
  have hmultiBasic :
      text? (triple '"' ++ opening cs ++ escaped 2 0 cs ++ triple '"' ++ rest) =
        some (cs, rest) := by
    simpa using text?_multiBasic cs hquote
  have hcontrol (h : cs.any isControl = false) : ∀ c ∈ cs, isControl c = false := by
    simpa using h
  have hline (h : cs.any isControl = false) (hend : cs.contains '\n' = false) :
      ∀ c ∈ cs, isLineChar c = true := by
    intro c hc
    refine isLineChar_of_not_isControl (hcontrol h c hc) ?_
    rintro rfl
    simp [hc] at hend
  unfold writeChars
  rw [← opening]
  cases hform : formOf cs with
  | basic => exact hbasic
  | literal =>
      obtain ⟨hplain, hmark, hend⟩ := of_formOf_eq_literal hform
      simpa using text?_literal (hline hplain hend) (not_mem_of_longestRun hmark) hapostrophe
  | multiBasic => exact hmultiBasic
  | multiLiteral =>
      obtain ⟨hplain, hrun⟩ := of_formOf_eq_multiLiteral hform
      simpa using text?_multiLiteral (hcontrol hplain) hrun hapostrophe

end Rescan.Toml
