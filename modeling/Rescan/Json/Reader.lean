import Rescan.Json.Basic
import Rescan.Json.Fault
import Rescan.Text.Basic

/-! # Reading JSON text

Reading is strict: no comments, no trailing commas, no raw control characters inside texts, and
surrogates only in pairs. Values nest to a limited depth and numbers stay within the range of
double-precision numbers. A value that is only skipped needs neither of these two limits, and
its texts may hold lone surrogates.
-/

namespace Rescan.Json

/-- How much is asked of a value. -/
inductive Care where
  /-- The value is wanted; it may contain values nested to the given depth. -/
  | wanted (depth : Nat)
  /-- The value is only skipped. -/
  | skipped
  deriving DecidableEq, Repr

namespace Care

/-- The care for the values inside a list or an object, if there may be any. -/
def inside? : Care → Option Care
  | .wanted 0 => none
  | .wanted (depth + 1) => if depth = 0 then none else some (.wanted depth)
  | .skipped => some .skipped

def isWanted : Care → Bool
  | .wanted _ => true
  | .skipped => false

/-- The depth to which a text may nest. -/
def text : Care := .wanted 128

end Care

/-- The blanks between the parts of a JSON text. -/
def isSpace (c : Char) : Bool := c == ' ' || c == '\n' || c == '\t' || c == '\r'

def skipSpace (input : List Char) : List Char := input.dropWhile isSpace

theorem length_skipSpace_le (input : List Char) :
    (skipSpace input).length ≤ input.length := by
  unfold skipSpace
  induction input with
  | nil => simp
  | cons c rest ih =>
    simp only [List.dropWhile_cons]
    split
    · exact Nat.le_succ_of_le ih
    · exact Nat.le_refl _

/-- The first of two code units that stand for one character. -/
def isHighSurrogate (n : Nat) : Bool := 0xD800 ≤ n && n ≤ 0xDBFF

/-- The second of two code units that stand for one character. -/
def isLowSurrogate (n : Nat) : Bool := 0xDC00 ≤ n && n ≤ 0xDFFF

/-- The value of four hexadecimal digits and the characters after them. Four bytes have to
be there; they are passed also when they are no digits. -/
def hexEscape : List Char → Except Fault (Nat × List Char)
  | a :: b :: c :: d :: rest =>
    match Text.digitValue? a, Text.digitValue? b, Text.digitValue? c, Text.digitValue? d with
    | some w, some x, some y, some z => .ok (((w * 16 + x) * 16 + y) * 16 + z, rest)
    | _, _, _, _ => .error ⟨.invalidEscape, a :: b :: c :: d :: rest, 4⟩
  | short =>
    if (Text.Utf8.encode short).length < 4 then .error (.here .eofInString [])
    else .error ⟨.invalidEscape, short, 4⟩

theorem length_hexEscape_lt {input rest : List Char} {n : Nat}
    (h : hexEscape input = .ok (n, rest)) : rest.length < input.length := by
  unfold hexEscape at h
  split at h
  · split at h
    · simp only [Except.ok.injEq, Prod.mk.injEq] at h
      obtain ⟨-, rfl⟩ := h
      simp only [List.length_cons]
      omega
    · simp at h
  · split at h <;> simp at h

/-- The character of an escape that begins with the letter `u`. -/
def unicodeEscape (care : Care) (input : List Char) :
    Except Fault (Char × List Char) :=
  match hexEscape input with
  | .error fault => .error fault
  | .ok (n, rest) =>
    if !care.isWanted then .ok (Char.ofNat n, rest)
    else if isLowSurrogate n then .error (.here .loneSurrogate rest)
    else if !isHighSurrogate n then .ok (Char.ofNat n, rest)
    else
      match rest with
      | [] => .error (.here .eofInString [])
      | '\\' :: [] => .error (.here .eofInString [])
      | '\\' :: 'u' :: rest₂ =>
        match hexEscape rest₂ with
        | .error fault => .error fault
        | .ok (m, rest₃) =>
          if isLowSurrogate m then
            .ok (Char.ofNat (0x10000 + (n - 0xD800) * 0x400 + (m - 0xDC00)), rest₃)
          else .error (.here .loneSurrogate rest₃)
      | '\\' :: other => .error (.atNext .unexpectedEndOfHexEscape other)
      | other => .error (.atNext .unexpectedEndOfHexEscape other)

theorem length_unicodeEscape_lt {care : Care} {input rest : List Char} {c : Char}
    (h : unicodeEscape care input = .ok (c, rest)) : rest.length < input.length := by
  unfold unicodeEscape at h
  split at h
  · simp at h
  · next n rest₁ heq =>
    have h₁ := length_hexEscape_lt heq
    repeat' split at h
    all_goals
      first
      | (simp at h; done)
      | (simp only [Except.ok.injEq, Prod.mk.injEq] at h
         obtain ⟨-, rfl⟩ := h
         first
         | exact h₁
         | (next h₂ _ =>
              have h₃ := length_hexEscape_lt h₂
              simp only [List.length_cons] at h₁ h₃ ⊢
              omega))

/-- The character of an escape, and the characters after it. -/
def escapeSequence (care : Care) : List Char → Except Fault (Char × List Char)
  | [] => .error (.here .eofInString [])
  | '"' :: rest => .ok ('"', rest)
  | '\\' :: rest => .ok ('\\', rest)
  | '/' :: rest => .ok ('/', rest)
  | 'b' :: rest => .ok ('\x08', rest)
  | 'f' :: rest => .ok ('\x0c', rest)
  | 'n' :: rest => .ok ('\n', rest)
  | 'r' :: rest => .ok ('\r', rest)
  | 't' :: rest => .ok ('\t', rest)
  | 'u' :: rest => unicodeEscape care rest
  | other => .error (.atNext .invalidEscape other)

theorem length_escapeSequence_lt {care : Care} {input rest : List Char} {c : Char}
    (h : escapeSequence care input = .ok (c, rest)) : rest.length < input.length := by
  unfold escapeSequence at h
  split at h
  all_goals
    first
    | (simp at h; done)
    | (simp only [Except.ok.injEq, Prod.mk.injEq] at h
       obtain ⟨-, rfl⟩ := h
       simp only [List.length_cons]
       omega)
    | (have h₁ := length_unicodeEscape_lt h
       simp only [List.length_cons]
       omega)

/-- The characters that a reader has left unread, fewer than it was given. -/
abbrev Shorter (input : List Char) := { rest : List Char // rest.length < input.length }

/-- Reads a text after its opening quotation mark, up to and with the closing one. -/
def textBody (care : Care) (input : List Char) :
    Except Fault (List Char × Shorter input) :=
  match input with
  | [] => .error (.here .eofInString [])
  | c :: rest =>
    if c = '"' then .ok ([], ⟨rest, Nat.lt_succ_self rest.length⟩)
    else if c = '\\' then
      match h : escapeSequence care rest with
      | .error fault => .error fault
      | .ok (e, rest₁) =>
        have h₁ : rest₁.length < rest.length := length_escapeSequence_lt h
        match textBody care rest₁ with
        | .error fault => .error fault
        | .ok (cs, ⟨rest₂, h₂⟩) =>
          .ok (e :: cs, ⟨rest₂, Nat.lt_succ_of_lt (Nat.lt_trans h₂ h₁)⟩)
    else if c.toNat < 0x20 then .error (.here .controlCharacter rest)
    else
      match textBody care rest with
      | .error fault => .error fault
      | .ok (cs, ⟨rest₂, h₂⟩) => .ok (c :: cs, ⟨rest₂, Nat.lt_succ_of_lt h₂⟩)
termination_by input.length

/-- Decimal digits at the beginning of the input, and the rest. -/
def digitRun (input : List Char) : List Char × List Char :=
  (input.takeWhile Char.isDigit, input.dropWhile Char.isDigit)

/-- The least number that does not round to a double-precision number. -/
def doubleBound : Nat := Nat.pow 2 1024 - Nat.pow 2 970

/-- Whether `mantissa * 10 ^ exponent` is too large for a double-precision number. -/
def exceedsDouble (mantissa : Nat) (exponent : Int) : Bool :=
  if mantissa = 0 then false
  else if 400 < exponent then true
  else if exponent < 0 then
    doubleBound * Nat.pow 10 (min (-exponent).toNat (mantissa.log2 + 400)) ≤ mantissa
  else doubleBound ≤ mantissa * Nat.pow 10 exponent.toNat

/-- The parts of a number: its digits before and after the point, and its exponent. -/
structure NumberParts where
  negative : Bool
  whole : List Char
  fraction : List Char
  exponent : Option Int
  deriving DecidableEq, Repr

namespace NumberParts

def toNumber (parts : NumberParts) : Number :=
  let digits := String.ofList parts.whole
  match parts.fraction, parts.exponent with
  | [], none =>
    let n := Text.digitsValue 10 parts.whole
    if parts.negative then
      if n = 0 then .inexact "-0" else .integer (-(n : Int))
    else .integer n
  | fraction, exponent =>
    .inexact ((if parts.negative then "-" else "") ++ digits ++ "." ++ String.ofList fraction ++
      "e" ++ toString (exponent.getD 0))

/-- Whether the number is too large for a double-precision number. -/
def isTooLarge (parts : NumberParts) : Bool :=
  let digits := parts.whole ++ parts.fraction
  let mantissa := Text.digitsValue 10 digits
  exceedsDouble mantissa (parts.exponent.getD 0 - parts.fraction.length)

end NumberParts

def exponentPart (input : List Char) : Except Fault (Int × List Char) :=
  let (negative, rest) := match input with
    | '+' :: rest => (false, rest)
    | '-' :: rest => (true, rest)
    | rest => (false, rest)
  match rest with
  | [] => .error (.here .eofInValue [])
  | c :: after =>
    if !c.isDigit then .error (.atNext .invalidNumber (c :: after))
    else
      let (digits, rest₁) := digitRun rest
      let n := Text.digitsValue 10 digits
      .ok (if negative then -(n : Int) else n, rest₁)

/-- Reads what may follow the digits before the point. -/
def fractionPart (negative : Bool) (whole input : List Char) :
    Except Fault (NumberParts × List Char) :=
  let withExponent (fraction rest : List Char) : Except Fault (NumberParts × List Char) :=
    match rest with
    | c :: after =>
      if c = 'e' ∨ c = 'E' then do
        let (e, rest₁) ← exponentPart after
        return (⟨negative, whole, fraction, some e⟩, rest₁)
      else .ok (⟨negative, whole, fraction, none⟩, rest)
    | [] => .ok (⟨negative, whole, fraction, none⟩, [])
  match input with
  | '.' :: rest =>
    let (fraction, rest₁) := digitRun rest
    if fraction.isEmpty then
      if rest₁.isEmpty then .error (.atNext .eofInValue rest₁)
      else .error (.atNext .invalidNumber rest₁)
    else withExponent fraction rest₁
  | rest => withExponent [] rest

def unsignedPart (negative : Bool) (input : List Char) :
    Except Fault (NumberParts × List Char) :=
  match input with
  | [] => .error (.here .eofInValue [])
  | c :: rest =>
    if c = '0' then
      match rest with
      | d :: after =>
        if d.isDigit then .error (.atNext .invalidNumber (d :: after))
        else fractionPart negative ['0'] rest
      | [] => fractionPart negative ['0'] []
    else if c.isDigit then
      let (digits, rest₁) := digitRun input
      fractionPart negative digits rest₁
    else .error (.atNext .invalidNumber input)

/-- Reads a number, whose first character is a digit or a minus sign. -/
def numberBody (care : Care) (input : List Char) : Except Fault (Number × List Char) := do
  let (parts, rest) ← match input with
    | '-' :: rest => unsignedPart true rest
    | rest => unsignedPart false rest
  if care.isWanted && parts.isTooLarge then .error (.here .numberOutOfRange rest)
  else .ok (parts.toNumber, rest)

/-- Reads a number and checks that it has used up some characters. -/
def numberAt (care : Care) (input : List Char) : Except Fault (Number × Shorter input) :=
  match numberBody care input with
  | .error fault => .error fault
  | .ok (n, rest) =>
    if h : rest.length < input.length then .ok (n, ⟨rest, h⟩)
    else .error (.here .invalidNumber rest)

/-- Reads the letters of a word after its first one. -/
def word : List Char → (input : List Char) → Except Fault (List Char)
  | [], input => .ok input
  | _ :: _, [] => .error (.here .eofInValue [])
  | expected :: more, c :: rest =>
    if c = expected then word more rest else .error (.atNext .expectedWord (c :: rest))

theorem length_word_le {letters input rest : List Char}
    (h : word letters input = .ok rest) : rest.length ≤ input.length := by
  induction letters generalizing input with
  | nil =>
    simp only [word, Except.ok.injEq] at h
    exact h ▸ Nat.le_refl _
  | cons expected more ih =>
    cases input with
    | nil => simp [word] at h
    | cons c tail =>
      simp only [word] at h
      split at h
      · exact Nat.le_succ_of_le (ih h)
      · simp at h

/-- A word of the language: its value, with the characters after it. -/
def constant (result : Json) (letters : List Char) (c : Char) (rest : List Char) :
    Except Fault (Json × Shorter (c :: rest)) :=
  match h : word letters rest with
  | .error fault => .error fault
  | .ok rest₁ => .ok (result, ⟨rest₁, Nat.lt_succ_of_le (length_word_le h)⟩)

/-- Widens the bound on the unread characters. -/
def Shorter.widen {short long : List Char} (rest : Shorter short)
    (h : short.length ≤ long.length) : Shorter long :=
  ⟨rest.1, Nat.lt_of_lt_of_le rest.2 h⟩

mutual

/-- Reads a value that begins with a character other than a blank. -/
def valueAt (care : Care) (input : List Char) : Except Fault (Json × Shorter input) :=
  match input with
  | [] => .error (.atNext .eofInValue [])
  | c :: rest =>
    if c = 'n' then constant .null ['u', 'l', 'l'] c rest
    else if c = 't' then constant (.bool true) ['r', 'u', 'e'] c rest
    else if c = 'f' then constant (.bool false) ['a', 'l', 's', 'e'] c rest
    else if c = '"' then
      match textBody care rest with
      | .error fault => .error fault
      | .ok (cs, ⟨rest₁, h⟩) =>
        .ok (.string (String.ofList cs), ⟨rest₁, Nat.lt_succ_of_lt h⟩)
    else if c = '[' then
      match care.inside? with
      | none => .error (.atNext .tooDeep input)
      | some inner =>
        match itemsAt inner true rest with
        | .error fault => .error fault
        | .ok (values, ⟨rest₁, h⟩) => .ok (.array values, ⟨rest₁, Nat.lt_succ_of_lt h⟩)
    else if c = '\x7b' then
      match care.inside? with
      | none => .error (.atNext .tooDeep input)
      | some inner =>
        match membersAt inner true rest with
        | .error fault => .error fault
        | .ok (fields, ⟨rest₁, h⟩) => .ok (.object fields, ⟨rest₁, Nat.lt_succ_of_lt h⟩)
    else if c = '-' || c.isDigit then
      match numberAt care (c :: rest) with
      | .error fault => .error fault
      | .ok (n, rest₁) => .ok (.number n, rest₁)
    else .error (.atNext .expectedValue input)
termination_by 2 * input.length

/-- Reads the values of a list after its opening bracket or after a value, up to and with the
closing bracket. -/
def itemsAt (care : Care) (first : Bool) (input : List Char) :
    Except Fault (List Json × Shorter input) :=
  have h₀ := length_skipSpace_le input
  match h : skipSpace input with
  | [] => .error (.atNext .eofInList [])
  | c :: rest =>
    have h₁ : rest.length < input.length := by
      rw [h] at h₀
      exact Nat.lt_of_succ_le h₀
    if c = ']' then .ok ([], ⟨rest, h₁⟩)
    else if first then
      match valueAt care (c :: rest) with
      | .error fault => .error fault
      | .ok (v, ⟨rest₁, h₃⟩) =>
        have h₄ : rest₁.length < rest.length + 1 := h₃
        match itemsAt care false rest₁ with
        | .error fault => .error fault
        | .ok (vs, ⟨rest₂, h₅⟩) => .ok (v :: vs, ⟨rest₂, by omega⟩)
    else if c = ',' then
      have h₂ := length_skipSpace_le rest
      match hm : skipSpace rest with
      | [] => .error (.atNext .eofInValue [])
      | d :: more =>
        have h₅ : more.length + 1 ≤ rest.length := by
          rw [hm] at h₂
          exact h₂
        if d = ']' then .error (.atNext .trailingComma (d :: more))
        else
          match valueAt care (d :: more) with
          | .error fault => .error fault
          | .ok (v, ⟨rest₁, h₃⟩) =>
            have h₄ : rest₁.length < more.length + 1 := h₃
            match itemsAt care false rest₁ with
            | .error fault => .error fault
            | .ok (vs, ⟨rest₂, h₆⟩) => .ok (v :: vs, ⟨rest₂, by omega⟩)
    else .error (.atNext .expectedListCommaOrEnd (c :: rest))
termination_by 2 * input.length + 1

/-- Reads the members of an object after its opening brace or after a member, up to and with
the closing brace. -/
def membersAt (care : Care) (first : Bool) (input : List Char) :
    Except Fault (List (String × Json) × Shorter input) :=
  have h₀ := length_skipSpace_le input
  match h : skipSpace input with
  | [] => .error (.atNext .eofInObject [])
  | c :: rest =>
    have h₁ : rest.length < input.length := by
      rw [h] at h₀
      exact Nat.lt_of_succ_le h₀
    if c = '\x7d' then .ok ([], ⟨rest, h₁⟩)
    else if first then
      if c = '"' then
        match memberAt care rest with
        | .error fault => .error fault
        | .ok (m, ⟨rest₁, h₃⟩) =>
          match membersAt care false rest₁ with
          | .error fault => .error fault
          | .ok (ms, ⟨rest₂, h₄⟩) => .ok (m :: ms, ⟨rest₂, by omega⟩)
      else .error (.atNext .keyMustBeString (c :: rest))
    else if c = ',' then
      have h₂ := length_skipSpace_le rest
      match hm : skipSpace rest with
      | [] => .error (.atNext .eofInValue [])
      | d :: more =>
        have h₅ : more.length < rest.length := by
          rw [hm] at h₂
          exact Nat.lt_of_succ_le h₂
        if d = '"' then
          match memberAt care more with
          | .error fault => .error fault
          | .ok (m, ⟨rest₁, h₃⟩) =>
            match membersAt care false rest₁ with
            | .error fault => .error fault
            | .ok (ms, ⟨rest₂, h₄⟩) => .ok (m :: ms, ⟨rest₂, by omega⟩)
        else if d = '\x7d' then .error (.atNext .trailingComma (d :: more))
        else .error (.atNext .keyMustBeString (d :: more))
    else .error (.atNext .expectedObjectCommaOrEnd (c :: rest))
termination_by 2 * input.length + 1

/-- Reads one member of an object after the quotation mark that opens its name. -/
def memberAt (care : Care) (input : List Char) :
    Except Fault ((String × Json) × Shorter input) :=
  match textBody care input with
  | .error fault => .error fault
  | .ok (name, ⟨rest, h₀⟩) =>
    have h₁ := length_skipSpace_le rest
    match h : skipSpace rest with
    | [] => .error (.atNext .eofInObject [])
    | c :: more =>
      have h₂ : more.length < rest.length := by
        rw [h] at h₁
        exact Nat.lt_of_succ_le h₁
      if c = ':' then
        have h₃ := length_skipSpace_le more
        match valueAt care (skipSpace more) with
        | .error fault => .error fault
        | .ok (v, ⟨rest₁, h₄⟩) => .ok ((String.ofList name, v), ⟨rest₁, by omega⟩)
      else .error (.atNext .expectedColon (c :: more))
termination_by 2 * input.length
decreasing_by all_goals omega

end

/-- Reads one value that only blanks may precede. -/
def value (care : Care) (input : List Char) : Except Fault (Json × Shorter input) :=
  match valueAt care (skipSpace input) with
  | .error fault => .error fault
  | .ok (v, rest) => .ok (v, rest.widen (length_skipSpace_le input))

def finish (rest : List Char) : Except Fault Unit :=
  match skipSpace rest with
  | [] => .ok ()
  | c :: more => .error (.atNext .trailingCharacters (c :: more))

def read (text : String) : Except Fault Json := do
  let (v, rest) ← value .text text.toList
  finish rest.1
  return v

end Rescan.Json
