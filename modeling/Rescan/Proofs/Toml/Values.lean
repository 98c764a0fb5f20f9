import Rescan.Proofs.Toml.Texts
import Rescan.Toml.Reader

/-! # Values in TOML are read as they were written

Numbers that fit, flags, texts and lists of texts are read as the value that was written when the
line ends after them.
-/

namespace Rescan.Toml

open Rescan.Text (Stops stops_cons)

/-- A text that is read as a value when its line ends after it. -/
structure Written (written : List Char) (value : Value) : Prop where
  starts : ∃ c more, written = c :: more ∧ isBlank c = false
  reads : ∀ rest, value? maxDepth (written ++ '\n' :: rest) = some (value, '\n' :: rest)

/-! ## Texts -/

theorem exists_writeChars_eq_cons (cs : List Char) :
    ∃ mark more, writeChars cs = mark :: more ∧ (mark = '"' ∨ mark = '\'') := by
  unfold writeChars
  cases formOf cs with
  | basic => exact ⟨'"', _, rfl, Or.inl rfl⟩
  | literal => exact ⟨'\'', _, rfl, Or.inr rfl⟩
  | multiBasic => exact ⟨'"', _, rfl, Or.inl rfl⟩
  | multiLiteral => exact ⟨'\'', _, rfl, Or.inr rfl⟩

theorem value?_writeChars (depth : Nat) (cs : List Char) {rest : List Char}
    (hquote : Stops (· == '"') rest) (hapostrophe : Stops (· == '\'') rest) :
    value? depth (writeChars cs ++ rest) = some (.text cs, rest) := by
  have hread := text?_writeChars cs hquote hapostrophe
  obtain ⟨mark, more, hwritten, rfl | rfl⟩ := exists_writeChars_eq_cons cs
  · rw [hwritten, List.cons_append] at hread ⊢
    rw [value?, hread]
    rfl
  · rw [hwritten, List.cons_append] at hread ⊢
    rw [value?, hread]
    rfl

theorem writeChars_written (cs : List Char) : Written (writeChars cs) (.text cs) where
  starts := by
    obtain ⟨mark, more, hwritten, rfl | rfl⟩ := exists_writeChars_eq_cons cs
    · exact ⟨'"', more, hwritten, rfl⟩
    · exact ⟨'\'', more, hwritten, rfl⟩
  reads rest := value?_writeChars maxDepth cs (stops_cons.mpr rfl) (stops_cons.mpr rfl)

/-! ## Numbers and flags -/

theorem separatedDigits?_of_all {base : Nat} {cs : List Char} (hnonempty : cs ≠ [])
    (hall : ∀ c ∈ cs, Text.isDigitOf base c = true) : separatedDigits? base cs = some cs := by
  induction cs with
  | nil => exact absurd rfl hnonempty
  | cons c cs ih =>
      obtain ⟨hc, hcs⟩ := List.forall_mem_cons.mp hall
      cases cs with
      | nil => rw [separatedDigits?, if_pos hc]
      | cons d cs =>
          rw [separatedDigits?, if_pos hc, ih (by simp) hcs]
          · rfl
          · simp
          · intro more heq
            obtain ⟨rfl, -⟩ := List.cons.inj heq
            have hscore : Text.isDigitOf base '_' = false := rfl
            rw [hcs '_' List.mem_cons_self] at hscore
            cases hscore

theorem cutSign_of_isDigit {cs : List Char} (hdigit : ∀ c ∈ cs, c.isDigit = true) :
    cutSign cs = (false, cs) := by
  rw [cutSign]
  · rintro more rfl
    cases hdigit '-' List.mem_cons_self
  · rintro more rfl
    cases hdigit '+' List.mem_cons_self

theorem integer?_digits {n : Nat} (hn : n ≤ maxInteger) :
    integer? (Text.digits 10 n) = some (n : Int) := by
  have hdigit : ∀ c ∈ Text.digits 10 n, c.isDigit = true := fun c hc =>
    Text.isDigit_of_mem_digits hc
  have hseparated : separatedDigits? 10 (Text.digits 10 n) = some (Text.digits 10 n) :=
    separatedDigits?_of_all (Text.digits_ne_nil n) fun c hc =>
      Text.isDigitOf_of_mem_digits (show 2 ≤ 10 by decide) (by decide) hc
  -- No other digit stands behind a zero.
  have hzero (d : Char) (more : List Char) : Text.digits 10 n ≠ '0' :: d :: more := by
    intro heq
    by_cases hzero : n = 0
    · rw [hzero, Text.digits_of_lt (by decide)] at heq
      cases heq
    · exact Text.head?_digits_ne_zero (show 2 ≤ 10 by decide) (by decide) hzero
        (by rw [heq]; rfl)
  have hwhole : wholeDigits? (Text.digits 10 n) = some (Text.digits 10 n) := by
    rw [wholeDigits?]
    · exact hseparated
    · exact fun d more => hzero d more
  have hfitting : fitting? (n : Int) = some (n : Int) := by
    rw [fitting?, if_pos]
    omega
  rw [integer?]
  · simp only [cutSign_of_isDigit hdigit, hwhole, Option.bind_some, Bool.false_eq_true, if_false,
      Text.digitsValue_digits (show 2 ≤ 10 by decide) (by decide), hfitting]
  all_goals
    intro more heq
    exact hzero _ _ heq

theorem scalar_of_token {token : List Char} {value : Value}
    (htoken : ∀ c ∈ token, isTokenChar c = true) (hvalue : tokenValue? token = some value)
    (rest : List Char) : scalar (token ++ '\n' :: rest) = some (value, '\n' :: rest) := by
  have hstop : Stops isTokenChar ('\n' :: rest) := stops_cons.mpr rfl
  rw [scalar]
  simp only [Stops.takeWhile_append htoken hstop, Stops.dropWhile_append htoken hstop, hvalue]
  rfl

theorem value?_of_isTokenChar (depth : Nat) {c : Char} (hc : isTokenChar c = true)
    (rest : List Char) : value? depth (c :: rest) = scalar (c :: rest) := by
  have hne (mark : Char) (hmark : isTokenChar mark = false) (more : List Char) :
      c :: rest ≠ mark :: more := by
    intro heq
    rw [(List.cons.inj heq).1, hmark] at hc
    cases hc
  cases depth with
  | zero =>
      rw [value?]
      · exact hne '"' rfl
      · exact hne '\'' rfl
  | succ depth =>
      rw [value?]
      · exact Nat.succ_ne_zero depth
      · exact hne '"' rfl
      · exact hne '\'' rfl
      · exact fun _ more _ => hne '[' rfl more
      · exact fun _ more _ => hne '\x7b' rfl more

/-- Tokens are read as values. -/
theorem written_of_token {token : List Char} {value : Value} (hnonempty : token ≠ [])
    (htoken : ∀ c ∈ token, isTokenChar c = true) (hvalue : tokenValue? token = some value) :
    Written token value := by
  obtain ⟨c, more, rfl⟩ := List.exists_cons_of_ne_nil hnonempty
  have hc := htoken c List.mem_cons_self
  refine ⟨⟨c, more, rfl, ?_⟩, fun rest => ?_⟩
  · rw [Bool.eq_false_iff]
    intro hblank
    rcases isBlank_iff.mp hblank with rfl | rfl <;> cases hc
  · rw [List.cons_append, value?_of_isTokenChar maxDepth hc, ← List.cons_append]
    exact scalar_of_token htoken hvalue rest

theorem writeFlag_written (flag : Bool) : Written (writeFlag flag).toList (.flag flag) := by
  cases flag
  · exact written_of_token (by decide) (List.all_eq_true.mp (by decide)) rfl
  · exact written_of_token (by decide) (List.all_eq_true.mp (by decide)) rfl

theorem isTokenChar_of_isDigit {c : Char} (hc : c.isDigit = true) : isTokenChar c = true := by
  simp [isTokenChar, Char.isAlphanum, hc]

theorem decimal_written {n : Nat} (hn : n ≤ maxInteger) :
    Written (Text.decimal n).toList (.integer n) := by
  have hdigit : ∀ c ∈ Text.digits 10 n, c.isDigit = true := fun c hc =>
    Text.isDigit_of_mem_digits hc
  rw [Text.toList_decimal]
  apply written_of_token (Text.digits_ne_nil n) fun c hc => isTokenChar_of_isDigit (hdigit c hc)
  have hword (first : Char) (more : List Char) (hfirst : first.isDigit = false) :
      Text.digits 10 n ≠ first :: more := by
    intro heq
    have := hdigit first (heq ▸ List.mem_cons_self)
    rw [hfirst] at this
    cases this
  rw [tokenValue?, if_neg (hword 't' _ rfl), if_neg (hword 'f' _ rfl), integer?_digits hn]

/-! ## Lists of texts -/

/-- Texts on lines of their own up to the closing bracket. -/
def itemLines : List String → List Char
  | [] => ['\n', ']']
  | s :: list =>
    '\n' :: ' ' :: ' ' :: ' ' :: ' ' :: (writeChars s.toList ++ ',' :: itemLines list)

theorem toList_join_lines (list : List String) :
    '\n' :: ((String.join (list.map fun s => "    " ++ writeText s ++ ",\n")).toList ++ [']']) =
      itemLines list := by
  induction list with
  | nil => rfl
  | cons s list ih =>
      have hblanks : "    ".toList = [' ', ' ', ' ', ' '] := rfl
      have hcomma : ",\n".toList = [',', '\n'] := rfl
      rw [itemLines, ← ih]
      simp [writeText, hblanks, hcomma]

theorem length_le_itemLines (list : List String) : list.length ≤ (itemLines list).length := by
  induction list with
  | nil => exact Nat.zero_le _
  | cons s list ih =>
      simp only [itemLines, List.length_cons, List.length_append]
      omega

theorem skipFiller_cons {c : Char} (hc : isBlank c = false ∧ c ≠ '\n' ∧ c ≠ '\r' ∧ c ≠ '#')
    (rest : List Char) : skipFiller false (c :: rest) = c :: rest := by
  obtain ⟨hblank, hend, hreturn, hcomment⟩ := hc
  rw [skipFiller]
  · simp [hblank, hcomment]
  · exact fun _ heq _ => hreturn heq
  · exact hend

/-- A written text is what the reading of a value begins with. -/
theorem skipFiller_writeChars (cs rest : List Char) :
    skipFiller false (writeChars cs ++ rest) = writeChars cs ++ rest := by
  obtain ⟨mark, more, hwritten, rfl | rfl⟩ := exists_writeChars_eq_cons cs
  · rw [hwritten, List.cons_append, skipFiller_cons (by decide)]
  · rw [hwritten, List.cons_append, skipFiller_cons (by decide)]

theorem items?_of_bracket (depth fuel : Nat) {input rest : List Char}
    (hstart : skipFiller false input = ']' :: rest) :
    items? depth (fuel + 1) input = some ([], rest) := by
  rw [items?.eq_def, hstart]
  rfl

/-- One text of a list and what follows it. -/
theorem items?_writeChars (depth fuel : Nat) {input rest : List Char} (cs : List Char)
    (hstart : skipFiller false input = writeChars cs ++ rest)
    (hquote : Stops (· == '"') rest) (hapostrophe : Stops (· == '\'') rest) :
    items? depth (fuel + 1) input =
      match skipFiller false rest with
      | ',' :: more => do
        let (values, after) ← items? depth fuel more
        return (.text cs :: values, after)
      | ']' :: after => return ([.text cs], after)
      | _ => none := by
  have hread := value?_writeChars depth cs hquote hapostrophe
  obtain ⟨mark, more, hwritten, hmark⟩ := exists_writeChars_eq_cons cs
  rw [items?.eq_def, hstart]
  rw [hwritten, List.cons_append] at hread ⊢
  split
  next hfuel => cases hfuel
  next hbracket _ =>
    obtain ⟨rfl, -⟩ := List.cons.inj hbracket
    rcases hmark with hmark | hmark <;> cases hmark
  next less hfuel _ =>
    obtain rfl := Nat.succ.inj hfuel
    rw [hread]
    rfl

theorem items?_itemLines (depth : Nat) (list : List String) {fuel : Nat}
    (hfuel : list.length < fuel) (rest : List Char) :
    items? depth fuel (itemLines list ++ rest) =
      some (list.map fun s => .text s.toList, rest) := by
  obtain ⟨fuel, rfl⟩ : ∃ less, fuel = less + 1 := ⟨fuel - 1, by omega⟩
  induction list generalizing fuel with
  | nil =>
      apply items?_of_bracket
      simp [itemLines, skipFiller, isBlank]
  | cons s list ih =>
      rw [List.length_cons] at hfuel
      obtain ⟨fuel, rfl⟩ : ∃ less, fuel = less + 1 := ⟨fuel - 1, by omega⟩
      have hstart : skipFiller false (itemLines (s :: list) ++ rest) =
          writeChars s.toList ++ (',' :: (itemLines list ++ rest)) := by
        have hsame := skipFiller_writeChars s.toList (',' :: (itemLines list ++ rest))
        simpa [itemLines, skipFiller, isBlank] using hsame
      rw [items?_writeChars depth _ _ hstart (stops_cons.mpr rfl) (stops_cons.mpr rfl),
        skipFiller_cons (by decide)]
      simp only [ih fuel (by omega)]
      rfl

/-- Brackets around items are read as the list of the items. -/
theorem written_of_items {inside : List Char} {values : List Value}
    (hitems : ∀ rest, items? 78 ((inside ++ '\n' :: rest).length + 1) (inside ++ '\n' :: rest) =
      some (values, '\n' :: rest)) :
    Written ('[' :: inside) (.list values) := by
  refine ⟨⟨'[', inside, rfl, rfl⟩, ?_⟩
  intro rest
  rw [List.cons_append, maxDepth, value?, hitems]
  rfl

/-- Lists of texts are read as they were written. -/
theorem writeTexts_written (list : List String) :
    Written (writeTexts list).toList (.list (list.map fun s => .text s.toList)) := by
  have hopen : "[".toList = ['['] := rfl
  have hclose : "]".toList = [']'] := rfl
  have hlines : "[\n".toList = ['[', '\n'] := rfl
  match list with
  | [] => exact written_of_items fun rest => items?_of_bracket 78 _ rfl
  | [s] =>
      have hwritten : (writeTexts [s]).toList = '[' :: (writeChars s.toList ++ [']']) := by
        simp [writeTexts, writeText, hopen, hclose]
      rw [hwritten]
      apply written_of_items
      intro rest
      have hstart : skipFiller false (writeChars s.toList ++ [']'] ++ '\n' :: rest) =
          writeChars s.toList ++ ']' :: '\n' :: rest := by
        rw [List.append_assoc, skipFiller_writeChars]
        rfl
      rw [items?_writeChars 78 _ _ hstart (stops_cons.mpr rfl) (stops_cons.mpr rfl),
        skipFiller_cons (by decide)]
      rfl
  | s :: t :: list =>
      have hwritten : (writeTexts (s :: t :: list)).toList = '[' :: itemLines (s :: t :: list) := by
        rw [← toList_join_lines]
        simp [writeTexts, hlines, hclose]
      rw [hwritten]
      apply written_of_items
      intro rest
      apply items?_itemLines
      have hlength := length_le_itemLines (s :: t :: list)
      rw [List.length_append]
      omega

end Rescan.Toml
