import Mathlib.Data.List.TakeWhile
import Rescan.Proofs.Text.Digits
import Rescan.Proofs.Text.Utf8
import Rescan.Url.Reader

/-! # Host names in lower case

A host name of letters in lower case, digits, hyphens and dots is kept as it is written when a URL
is read, unless it ends like an address or one of its labels is marked as Punycode.
-/

namespace Rescan.Url

open Rescan.Text (Stops)

/-! ## Labels -/

namespace Domain

/-- The characters of labels in lower case. -/
def labelChars : List Char := "abcdefghijklmnopqrstuvwxyz0123456789-".toList

/-- The characters of names in lower case. -/
def nameChars : List Char := '.' :: labelChars

/-- A label in lower case that begins and ends with a letter or a digit and does not have the
beginning of a label in Punycode. -/
structure IsDnsLabel (text : String) : Prop where
  nonempty : text.toList ≠ []
  chars : ∀ c ∈ text.toList, c ∈ labelChars
  head_ne : text.toList.head? ≠ some '-'
  last_ne : text.toList.getLast? ≠ some '-'
  unmarked : ¬mark <+: text.toList

instance : DecidablePred IsDnsLabel := fun text =>
  decidable_of_iff
    (text.toList ≠ [] ∧ text.toList.all (labelChars.contains ·) = true ∧
      text.toList.head? ≠ some '-' ∧ text.toList.getLast? ≠ some '-' ∧ ¬mark <+: text.toList)
    ⟨fun ⟨hnonempty, hchars, hhead, hlast, hmark⟩ =>
      ⟨hnonempty, by simpa using hchars, hhead, hlast, hmark⟩,
      fun h => ⟨h.nonempty, by simpa using h.chars, h.head_ne, h.last_ne, h.unmarked⟩⟩

/-- Checks one character of a name after the other. -/
theorem of_mem_nameChars {p : Char → Bool} (hall : nameChars.all p = true) {c : Char}
    (hc : c ∈ nameChars) : p c = true :=
  List.all_eq_true.mp hall c hc

theorem IsDnsLabel.dot_not_mem {text : String} (hlabel : IsDnsLabel text) : '.' ∉ text.toList :=
  fun hmem => absurd (hlabel.chars _ hmem) (by decide)

theorem labels_append_dot {label : List Char} (hdot : '.' ∉ label) (rest : List Char) :
    labels (label ++ '.' :: rest) = label :: labels rest := by
  induction label with
  | nil => rfl
  | cons c label ih =>
      obtain ⟨hc, hlabel⟩ := List.ne_and_not_mem_of_not_mem_cons hdot
      rw [List.cons_append, labels, if_neg (Ne.symm hc), ih hlabel]

end Domain

/-! ## Names -/

open Domain (nameChars labels mark of_mem_nameChars)

/-- A name that is kept as it is written. -/
structure IsPlainName (cs : List Char) : Prop where
  nonempty : cs ≠ []
  chars : ∀ c ∈ cs, c ∈ nameChars
  unmarked : ∀ label ∈ labels cs, ¬mark <+: label
  not_number : endsInNumber cs = false

theorem decode_of_not_mem {cs : List Char} (hpercent : '%' ∉ cs) :
    Percent.decode cs = Text.Utf8.encode cs := by
  induction cs with
  | nil => rfl
  | cons c rest ih =>
      obtain ⟨hc, hrest⟩ := List.ne_and_not_mem_of_not_mem_cons hpercent
      rw [Percent.decode, ih hrest]
      · rfl
      · rintro a b more rfl
        exact absurd rfl hc

theorem mem_of_mem_labels {cs label : List Char} (hlabel : label ∈ labels cs) {c : Char}
    (hc : c ∈ label) : c ∈ cs := by
  induction cs generalizing label with
  | nil =>
      rw [labels, List.mem_singleton] at hlabel
      rwa [hlabel] at hc
  | cons first rest ih =>
      rw [labels] at hlabel
      split at hlabel
      · rcases List.mem_cons.mp hlabel with rfl | hlabel
        · cases hc
        · exact List.mem_cons_of_mem _ (ih hlabel hc)
      · split at hlabel
        · rw [List.mem_singleton.mp hlabel, List.mem_singleton] at hc
          exact hc ▸ List.mem_cons_self
        next front more hmore =>
          rcases List.mem_cons.mp hlabel with rfl | hlabel
          · rcases List.mem_cons.mp hc with rfl | hc
            · exact List.mem_cons_self
            · exact List.mem_cons_of_mem _ (ih (hmore ▸ List.mem_cons_self) hc)
          · exact List.mem_cons_of_mem _ (ih (hmore ▸ List.mem_cons_of_mem _ hlabel) hc)

/-- A name that is kept as it is written is the host itself. -/
theorem networkHost_of_plain {cs : List Char} (hname : IsPlainName cs) :
    networkHost cs = .ok (.name (String.ofList cs)) := by
  have hbracket : cs.head? ≠ some '[' := fun hhead =>
    absurd (hname.chars _ (List.mem_of_mem_head? hhead)) (by decide)
  have hdecode : Text.Utf8.decodeLossy (Percent.decode cs) = String.ofList cs := by
    rw [decode_of_not_mem fun hmem => absurd (hname.chars _ hmem) (by decide),
      Text.Utf8.decodeLossy_encode]
  have hlower {part : List Char} (hpart : ∀ c ∈ part, c ∈ cs) : part.map Char.toLower = part :=
    (List.map_congr_left fun c hc =>
      beq_iff_eq.mp (of_mem_nameChars (p := fun c => c.toLower == c) (by decide)
        (hname.chars c (hpart c hc)))).trans
      (List.map_id part)
  have hplain : Domain.isPlain cs = true := by
    simp only [Domain.isPlain, Bool.and_eq_true, List.all_eq_true, Bool.not_eq_true',
      List.any_eq_false, List.isPrefixOf_iff_prefix]
    refine ⟨fun c hc => ?_, fun label hlabel => ?_⟩
    · exact of_mem_nameChars (by decide) (hname.chars c hc)
    · rw [hlower fun c hc => mem_of_mem_labels hlabel hc]
      exact hname.unmarked label hlabel
  have hforbidden : cs.any Domain.isForbidden = false := by
    rw [List.any_eq_false]
    intro c hc
    have hallowed : (!Domain.isForbidden c) = true :=
      of_mem_nameChars (p := fun c => !Domain.isForbidden c) (by decide) (hname.chars c hc)
    simpa using hallowed
  rw [networkHost, if_neg (by simpa using hbracket)]
  simp only [hdecode, String.toList_ofList, Domain.toAscii?, hplain, hforbidden, if_true,
    Bool.false_eq_true, if_false, hlower fun c hc => hc, hname.not_number]
  rw [if_neg (by simpa using hname.nonempty)]

/-! ## Reading -/

theorem dropWhile_eq_self {p : Char → Bool} {cs : List Char} (hall : ∀ c ∈ cs, p c = false) :
    cs.dropWhile p = cs :=
  Stops.dropWhile_eq_self fun c hc => hall c (List.mem_of_mem_head? hc)

/-- A text of visible characters is read as it is. -/
theorem significant_of_visible {text : String} (hvisible : ∀ c ∈ text.toList, 0x20 < c.toNat) :
    significant text = text.toList := by
  have hedge : ∀ cs : List Char, (∀ c ∈ cs, c ∈ text.toList) →
      (cs.dropWhile fun c => decide (c.toNat ≤ 0x20)) = cs := by
    intro cs hcs
    refine dropWhile_eq_self fun c hc => ?_
    have := hvisible c (hcs c hc)
    simpa using this
  have hkept : (text.toList.filter fun c => c != '\t' && c != '\n' && c != '\r') = text.toList := by
    rw [List.filter_eq_self]
    intro c hc
    have := hvisible c hc
    simp only [Bool.and_eq_true, bne_iff_ne]
    refine ⟨⟨?_, ?_⟩, ?_⟩ <;> rintro rfl <;> contradiction
  simp only [significant]
  rw [hedge _ fun c hc => hc, hedge _ fun c hc => List.mem_reverse.mp hc, List.reverse_reverse,
    hkept]

theorem cutAt_of_not_mem {c : Char} {cs : List Char} (hmem : c ∉ cs) : cutAt c cs = (cs, none) := by
  have hdrop : cs.dropWhile (· != c) = [] := by
    rw [List.dropWhile_eq_nil_iff]
    intro other hother
    rw [bne_iff_ne]
    rintro rfl
    exact hmem hother
  rw [cutAt, hdrop]

theorem cutUserInfo_of_not_mem {special : Bool} {cs : List Char} (hmem : '@' ∉ cs) :
    cutUserInfo special cs = (none, cs) := by
  have hdrop : ((cs.takeWhile fun c => !isSlash special c).reverse.dropWhile (· != '@')) = [] := by
    rw [List.dropWhile_eq_nil_iff]
    intro other hother
    rw [bne_iff_ne]
    rintro rfl
    exact hmem (List.takeWhile_sublist _ |>.subset (List.mem_reverse.mp hother))
  rw [cutUserInfo, hdrop]

/-- A name ends at the colon after it. -/
theorem cutHost_name {host : List Char} (hname : ∀ c ∈ host, c ∈ nameChars) (rest : List Char) :
    cutHost true false (host ++ ':' :: rest) = (host, ':' :: rest) := by
  induction host with
  | nil => rfl
  | cons c host ih =>
      have hc : (!isSlash true c && c != ':' && c != '[' && c != ']') = true :=
        of_mem_nameChars (p := fun c => !isSlash true c && c != ':' && c != '[' && c != ']')
          (by decide) (hname c List.mem_cons_self)
      simp only [Bool.and_eq_true, Bool.not_eq_true', bne_iff_ne] at hc
      obtain ⟨⟨⟨hslash, hcolon⟩, hopen⟩, hclose⟩ := hc
      rw [List.cons_append, cutHost, if_neg (by simp [hslash, hcolon])]
      simp only [hopen, hclose, if_false, ih fun d hd => hname d (List.mem_cons_of_mem _ hd)]

/-- The port of a URL in the web, unless it is the default one. -/
theorem readPort_digits (n : Nat) :
    readPort "http" (Text.digits 10 n) =
      if n ≤ 0xFFFF then .ok (if n = 80 then none else some (UInt16.ofNat n), [])
      else .error .invalidPort := by
  have hdigits : ∀ c ∈ Text.digits 10 n, c.isDigit = true := by
    intro c hc
    exact Text.isDigit_of_mem_digits hc
  have htake := List.takeWhile_eq_self_iff.mpr hdigits
  have hdrop := List.dropWhile_eq_nil_iff.mpr hdigits
  simp only [readPort, htake, hdrop, Text.digitsValue_digits (show 2 ≤ 10 by decide) (by decide),
    List.head?_nil, Option.any_none]
  by_cases hlarge : n ≤ 0xFFFF
  · rw [if_neg (by omega), if_pos hlarge, if_neg (by simp)]
    have hdefault : (defaultPort? "http" == some (UInt16.ofNat n)) = decide (n = 80) := by
      rw [Bool.eq_iff_iff, beq_iff_eq, decide_eq_true_eq]
      change some 80 = some _ ↔ _
      rw [Option.some_inj, ← UInt16.toNat_inj, UInt16.toNat_ofNat', Nat.mod_eq_of_lt (by omega)]
      exact eq_comm
    rw [hdefault]
    by_cases heighty : n = 80
    · simp [heighty]
    · simp [heighty, Text.digits_ne_nil]
  · rw [if_pos (by omega), if_neg hlarge]

theorem readPort_of_not_digit (scheme : String) {c : Char} (hdigit : c.isDigit = false)
    (hslash : isAnySlash c = false) (rest : List Char) :
    readPort scheme (c :: rest) = .error .invalidPort := by
  have htake : (c :: rest).takeWhile Char.isDigit = [] := by simp [hdigit]
  have hdrop : (c :: rest).dropWhile Char.isDigit = c :: rest := by simp [hdigit]
  simp only [readPort, htake, hdrop]
  rw [if_neg (by simp [Text.digitsValue]), if_pos (by simp [hslash])]

/-- The URL in the web with a name as its host, with what was read behind the name. -/
def named (host : List Char) (found : Option UInt16 × List Char) : Url where
  scheme := "http"
  host := some (.name (String.ofList host))
  port := found.1
  path := pathAfterAuthority "http" found.2

section Http

variable {host port : List Char} (hname : IsPlainName host)
  (hport : ∀ c ∈ port, c ∈ Domain.labelChars)

include hname hport

theorem mem_of_mem_authority {c : Char} (hc : c ∈ host ++ ':' :: port) : c ∈ ':' :: nameChars := by
  simp only [List.mem_append, List.mem_cons] at hc
  rcases hc with hc | rfl | hc
  · exact List.mem_cons_of_mem _ (hname.chars c hc)
  · exact List.mem_cons_self
  · exact List.mem_cons_of_mem _ (List.mem_cons_of_mem _ (hport c hc))

theorem readAuthority_http :
    readAuthority "http" (host ++ ':' :: port) = (readPort "http" port).map (named host) := by
  have hat : '@' ∉ host ++ ':' :: port := fun hmem =>
    absurd (mem_of_mem_authority hname hport hmem) (by decide)
  have hspecial : isSpecial "http" = true := rfl
  have hempty : host.isEmpty = false := by simpa using hname.nonempty
  have hnone : ((none : Option (List Char)) == some []) = false := rfl
  simp only [readAuthority, hspecial, cutUserInfo_of_not_mem hat, cutHost_name hname.chars,
    networkHost_of_plain hname, hempty, hnone, bind, Except.bind, pure, Except.pure,
    Bool.false_and, Bool.false_eq_true, if_false, if_true]
  cases readPort "http" port with
  | error fault => rfl
  | ok found =>
      have hcredentials : credentials [] = ("", "") := rfl
      simp only [Option.getD_none, hcredentials]
      rw [if_neg (by simp)]
      rfl

/-- A text with a name and a port behind the beginning of a URL in the web is the URL with this
name as its host, unless the port is refused. -/
theorem parse_http {text : String}
    (htext : text.toList = 'h' :: 't' :: 't' :: 'p' :: ':' :: '/' :: '/' :: (host ++ ':' :: port)) :
    parse text = (readPort "http" port).map (named host) := by
  have hchars : ∀ c ∈ text.toList, c ∈ '/' :: ':' :: nameChars := by
    rw [htext]
    intro c hc
    simp only [List.mem_cons] at hc
    rcases hc with rfl | rfl | rfl | rfl | rfl | rfl | rfl | hc
    iterate 7 decide
    exact List.mem_cons_of_mem _ (mem_of_mem_authority hname hport hc)
  have hvisible : ('/' :: ':' :: nameChars).all (fun c => decide (0x20 < c.toNat)) = true := by
    decide
  have hsignificant : significant text = text.toList :=
    significant_of_visible fun c hc =>
      of_decide_eq_true (List.all_eq_true.mp hvisible c (hchars c hc))
  have habsent (c : Char) (hc : c ∉ '/' :: ':' :: nameChars) : c ∉ text.toList := fun hmem =>
    hc (hchars c hmem)
  have hparts : Parts.ofChars text.toList = ⟨text.toList, none, none⟩ := by
    rw [Parts.ofChars, cutAt_of_not_mem (habsent '#' (by decide))]
    simp only [cutAt_of_not_mem (habsent '?' (by decide))]
  have hscheme : scheme? text.toList = some ("http", '/' :: '/' :: (host ++ ':' :: port)) := by
    rw [htext]
    rfl
  have hslashes : (('/' :: '/' :: (host ++ ':' :: port)).takeWhile isAnySlash) = ['/', '/'] := by
    obtain ⟨first, more, rfl⟩ := List.exists_cons_of_ne_nil hname.nonempty
    have hfirst : (!isAnySlash first) = true :=
      of_mem_nameChars (p := fun c => !isAnySlash c) (by decide)
        (hname.chars first List.mem_cons_self)
    rw [Bool.not_eq_true'] at hfirst
    rw [List.takeWhile_cons_of_pos rfl, List.takeWhile_cons_of_pos rfl, List.cons_append,
      List.takeWhile_cons_of_neg (by simp [hfirst])]
  have hweb : ("http" == "file") = false ∧ isSpecial "http" = true := ⟨by decide, rfl⟩
  simp only [parse, read, hsignificant, hparts, hscheme, readWithScheme, hweb, hslashes,
    List.length_cons, List.length_nil, List.drop_succ_cons, List.drop_zero,
    readAuthority_http hname hport, Bool.false_eq_true, if_false, if_true, bind, Except.bind, pure,
    Except.pure]
  cases readPort "http" port <;> rfl

end Http

end Rescan.Url
