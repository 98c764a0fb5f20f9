import Mathlib.Tactic.SplitIfs
import Rescan.Json.Reader
import Rescan.Json.Writer
import Rescan.Proofs.Text.Digits

/-! # Texts in JSON are read as they were written

Whatever characters a text has, it is read as the text again. So is an object of texts, whoever
reads it: the names and the texts come back in the order in which they were written.
-/

namespace Rescan.Json

/-- Reading succeeds with a value and leaves the given characters unread. -/
def Gives {α : Type} {input : List Char} (result : Except Fault (α × Shorter input)) (value : α)
    (rest : List Char) : Prop :=
  ∃ h : rest.length < input.length, result = .ok (value, ⟨rest, h⟩)

/-! ## Escapes -/

/-- The code point of a control character is read as the character, whatever care is taken. -/
theorem unicodeEscape_hex (care : Care) {c : Char} (hc : c.toNat < 0x20) (rest : List Char) :
    unicodeEscape care ('0' :: '0' :: Text.digitChar (c.toNat / 16) ::
      Text.digitChar (c.toNat % 16) :: rest) = .ok (c, rest) := by
  have hzero : Text.digitValue? '0' = some 0 := rfl
  have hhigh := Text.digitValue?_digitChar (show c.toNat / 16 < 16 by omega)
  have hlow := Text.digitValue?_digitChar (show c.toNat % 16 < 16 by omega)
  have hvalue : ((0 * 16 + 0) * 16 + c.toNat / 16) * 16 + c.toNat % 16 = c.toNat := by omega
  have hhex : hexEscape ('0' :: '0' :: Text.digitChar (c.toNat / 16) ::
      Text.digitChar (c.toNat % 16) :: rest) = .ok (c.toNat, rest) := by
    rw [hexEscape, hzero, hhigh, hlow]
    simp only [hvalue]
  have hplain : isLowSurrogate c.toNat = false ∧ isHighSurrogate c.toNat = false := by
    simp only [isLowSurrogate, isHighSurrogate, Bool.and_eq_false_iff, decide_eq_false_iff_not]
    omega
  rw [unicodeEscape, hhex]
  simp only [hplain.1, hplain.2, Char.ofNat_toNat, Bool.not_false, Bool.false_eq_true, if_false,
    if_true, ite_self]

section Body

variable {care : Care} {c : Char} {cs rest more after : List Char}

theorem textBody_end (care : Care) (rest : List Char) :
    Gives (textBody care ('"' :: rest)) [] rest :=
  ⟨Nat.lt_succ_self _, by rw [textBody, if_pos rfl]⟩

theorem textBody_plain (hquote : c ≠ '"') (hslash : c ≠ '\\') (hcontrol : ¬c.toNat < 0x20)
    (hread : Gives (textBody care rest) cs after) :
    Gives (textBody care (c :: rest)) (c :: cs) after := by
  obtain ⟨hlength, hread⟩ := hread
  refine ⟨Nat.lt_succ_of_lt hlength, ?_⟩
  rw [textBody, if_neg hquote, if_neg hslash, if_neg hcontrol, hread]

theorem textBody_escape (hescape : escapeSequence care rest = .ok (c, more))
    (hread : Gives (textBody care more) cs after) :
    Gives (textBody care ('\\' :: rest)) (c :: cs) after := by
  obtain ⟨hlength, hread⟩ := hread
  have hmore := length_escapeSequence_lt hescape
  refine ⟨Nat.lt_succ_of_lt (Nat.lt_trans hlength hmore), ?_⟩
  rw [textBody, if_neg (by decide), if_pos rfl]
  split
  next heq =>
    rw [hescape] at heq
    cases heq
  next heq =>
    rw [hescape] at heq
    cases heq
    rw [hread]

/-- What is written for a character is read as the character. -/
theorem textBody_escape_append (hread : Gives (textBody care rest) cs after) :
    Gives (textBody care (escape c ++ rest)) (c :: cs) after := by
  generalize hwritten : escape c = written
  unfold escape at hwritten
  split_ifs at hwritten with hquote hslash hback hform hend hreturn htab hcontrol <;> subst hwritten
  · subst hquote
    exact textBody_escape rfl hread
  · subst hslash
    exact textBody_escape rfl hread
  · subst hback
    exact textBody_escape rfl hread
  · subst hform
    exact textBody_escape rfl hread
  · subst hend
    exact textBody_escape rfl hread
  · subst hreturn
    exact textBody_escape rfl hread
  · subst htab
    exact textBody_escape rfl hread
  · exact textBody_escape (unicodeEscape_hex care hcontrol rest) hread
  · exact textBody_plain hquote hslash hcontrol hread

/-- A text is read as it was written. -/
theorem textBody_escaped (care : Care) (cs rest : List Char) :
    Gives (textBody care (cs.flatMap escape ++ '"' :: rest)) cs rest := by
  induction cs with
  | nil => exact textBody_end care rest
  | cons c cs ih =>
      rw [List.flatMap_cons, List.append_assoc]
      exact textBody_escape_append ih

end Body

/-! ## Values -/

theorem quoteChars_append (cs rest : List Char) :
    quoteChars cs ++ rest = '"' :: (cs.flatMap escape ++ '"' :: rest) := by
  simp [quoteChars]

@[simp] theorem toList_quote (s : String) : (quote s).toList = quoteChars s.toList :=
  String.toList_ofList

theorem skipSpace_cons {c : Char} (hc : isSpace c = false) (rest : List Char) :
    skipSpace (c :: rest) = c :: rest := by
  rw [skipSpace, List.dropWhile_cons_of_neg (by simp [hc])]

theorem skipSpace_quoteChars (cs rest : List Char) :
    skipSpace (quoteChars cs ++ rest) = quoteChars cs ++ rest := by
  rw [quoteChars_append]
  exact skipSpace_cons rfl _

section Values

variable {care : Care} {input rest : List Char} {v : Json}

theorem valueAt_quoteChars (care : Care) (cs rest : List Char) :
    Gives (valueAt care (quoteChars cs ++ rest)) (.string (String.ofList cs)) rest := by
  obtain ⟨hlength, hbody⟩ := textBody_escaped care cs rest
  rw [quoteChars_append]
  refine ⟨Nat.lt_succ_of_lt hlength, ?_⟩
  simp only [valueAt, hbody]
  rfl

theorem Gives.value (hskip : skipSpace input = input)
    (hread : Gives (valueAt care input) v rest) : Gives (Json.value care input) v rest := by
  obtain ⟨hlength, hvalue⟩ : Gives (valueAt care (skipSpace input)) v rest := by rwa [hskip]
  refine ⟨Nat.lt_of_lt_of_le hlength (length_skipSpace_le input), ?_⟩
  rw [Json.value, hvalue]
  rfl

theorem value_quoteChars (care : Care) (cs rest : List Char) :
    Gives (value care (quoteChars cs ++ rest)) (.string (String.ofList cs)) rest :=
  (valueAt_quoteChars care cs rest).value (skipSpace_quoteChars cs rest)

end Values

/-! ## Objects of texts -/

/-- A member of an object of texts as it is written. -/
def memberChars (member : String × String) : List Char :=
  quoteChars member.1.toList ++ ':' :: quoteChars member.2.toList

/-- Members that follow another one as they are written. -/
def furtherChars (members : List (String × String)) : List Char :=
  members.flatMap fun member => ',' :: memberChars member

theorem memberChars_append (member : String × String) (rest : List Char) :
    memberChars member ++ rest = '"' :: (member.1.toList.flatMap escape ++
      '"' :: ':' :: (quoteChars member.2.toList ++ rest)) := by
  rw [memberChars, List.append_assoc, quoteChars_append, List.cons_append]

theorem toList_intercalate_members (member : String × String) (members : List (String × String)) :
    (",".intercalate ((member :: members).map fun (name, text) =>
      quote name ++ ":" ++ quote text)).toList = memberChars member ++ furtherChars members := by
  induction members generalizing member with
  | nil => simp [memberChars, furtherChars]
  | cons next members ih =>
      have hrest := ih next
      rw [List.map_cons] at hrest
      rw [List.map_cons, List.map_cons, String.intercalate_cons_cons, String.toList_append, hrest]
      simp [memberChars, furtherChars]

theorem toList_writeTexts_cons (member : String × String) (members : List (String × String)) :
    (writeTexts (member :: members)).toList =
      '\x7b' :: (memberChars member ++ (furtherChars members ++ ['\x7d'])) := by
  have hmembers := toList_intercalate_members member members
  rw [writeTexts, writeMembers, separated, List.map_map]
  simp only [Function.comp_def, String.toList_append, hmembers]
  simp

section Members

variable {care : Care} {more rest after : List Char} {m : String × Json}
  {ms : List (String × Json)}

theorem membersAt_end (care : Care) (first : Bool) (rest : List Char) :
    Gives (membersAt care first ('\x7d' :: rest)) [] rest := by
  refine ⟨Nat.lt_succ_self _, ?_⟩
  rw [membersAt]
  split
  next heq =>
    rw [skipSpace_cons rfl] at heq
    cases heq
  next heq =>
    rw [skipSpace_cons rfl] at heq
    cases heq
    rfl

theorem membersAt_first (hmember : Gives (memberAt care more) m rest)
    (hmembers : Gives (membersAt care false rest) ms after) :
    Gives (membersAt care true ('"' :: more)) (m :: ms) after := by
  obtain ⟨hrest, hmember⟩ := hmember
  obtain ⟨hafter, hmembers⟩ := hmembers
  refine ⟨Nat.lt_succ_of_lt (Nat.lt_trans hafter hrest), ?_⟩
  rw [membersAt]
  split
  next heq =>
    rw [skipSpace_cons rfl] at heq
    cases heq
  next heq =>
    rw [skipSpace_cons rfl] at heq
    cases heq
    simp only [hmember, hmembers]
    rfl

theorem membersAt_next (hmember : Gives (memberAt care more) m rest)
    (hmembers : Gives (membersAt care false rest) ms after) :
    Gives (membersAt care false (',' :: '"' :: more)) (m :: ms) after := by
  obtain ⟨hrest, hmember⟩ := hmember
  obtain ⟨hafter, hmembers⟩ := hmembers
  refine ⟨by simp only [List.length_cons]; omega, ?_⟩
  rw [membersAt]
  split
  next heq =>
    rw [skipSpace_cons rfl] at heq
    cases heq
  next heq =>
    rw [skipSpace_cons rfl] at heq
    cases heq
    simp only [Bool.false_eq_true, if_false, if_true]
    rw [if_neg (by decide)]
    split
    next hquote =>
      rw [skipSpace_cons rfl] at hquote
      cases hquote
    next hquote =>
      rw [skipSpace_cons rfl] at hquote
      cases hquote
      simp only [hmember, hmembers]
      rfl

theorem memberAt_memberChars (care : Care) (member : String × String) (rest : List Char) :
    Gives (memberAt care (member.1.toList.flatMap escape ++
      '"' :: ':' :: (quoteChars member.2.toList ++ rest))) (member.1, .string member.2) rest := by
  obtain ⟨hname, hreadName⟩ :=
    textBody_escaped care member.1.toList (':' :: (quoteChars member.2.toList ++ rest))
  have hskip := skipSpace_quoteChars member.2.toList rest
  obtain ⟨htext, hreadText⟩ : Gives (valueAt care (skipSpace (quoteChars member.2.toList ++ rest)))
      (.string (String.ofList member.2.toList)) rest := by
    rw [hskip]
    exact valueAt_quoteChars care member.2.toList rest
  refine ⟨?_, ?_⟩
  · simp only [hskip] at htext
    simp only [List.length_cons] at hname
    omega
  rw [memberAt, hreadName]
  dsimp only
  split
  next heq =>
    rw [skipSpace_cons rfl] at heq
    cases heq
  next heq =>
    rw [skipSpace_cons rfl] at heq
    cases heq
    simp only [hreadText, String.ofList_toList]
    rfl

theorem valueAt_object {inner : Care} (hinner : care.inside? = some inner)
    (hmembers : Gives (membersAt inner true rest) ms after) :
    Gives (valueAt care ('\x7b' :: rest)) (.object ms) after := by
  obtain ⟨hafter, hmembers⟩ := hmembers
  refine ⟨Nat.lt_succ_of_lt hafter, ?_⟩
  rw [valueAt, if_neg (by decide), if_neg (by decide), if_neg (by decide), if_neg (by decide),
    if_neg (by decide), if_pos rfl, hinner]
  simp only [hmembers]

end Members

/-- The members of an object of texts are read as they were written. -/
theorem membersAt_furtherChars (care : Care) (members : List (String × String)) (rest : List Char) :
    Gives (membersAt care false (furtherChars members ++ '\x7d' :: rest))
      (members.map fun member => (member.1, .string member.2)) rest := by
  induction members with
  | nil => exact membersAt_end care false rest
  | cons member members ih =>
      rw [furtherChars, List.flatMap_cons, List.append_assoc, List.cons_append, memberChars_append]
      exact membersAt_next (memberAt_memberChars care member _) ih

theorem read_of_valueAt {text : String} {v : Json}
    (hskip : skipSpace text.toList = text.toList)
    (hread : Gives (valueAt .text text.toList) v []) : read text = .ok v := by
  obtain ⟨_, hvalue⟩ := hread.value hskip
  rw [read, hvalue]
  rfl

/-- An object of texts is read as it was written. -/
theorem read_writeTexts (members : List (String × String)) :
    read (writeTexts members) =
      .ok (.object (members.map fun member => (member.1, .string member.2))) := by
  cases members with
  | nil =>
      have htext : (writeTexts []).toList = ['\x7b', '\x7d'] := by decide
      refine read_of_valueAt ?_ ?_ <;> rw [htext]
      · exact skipSpace_cons rfl _
      · exact valueAt_object rfl (membersAt_end _ true [])
  | cons member members =>
      have htext := toList_writeTexts_cons member members
      refine read_of_valueAt ?_ ?_ <;> rw [htext]
      · exact skipSpace_cons rfl _
      · rw [memberChars_append]
        exact valueAt_object rfl (membersAt_first (memberAt_memberChars _ member _)
          (membersAt_furtherChars _ members []))

end Rescan.Json
