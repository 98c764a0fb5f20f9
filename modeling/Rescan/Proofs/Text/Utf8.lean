import Mathlib.Data.Char
import Rescan.Text.Utf8

/-! # Texts as bytes

The bytes of a text are read as the text, and nothing in them is ill-formed. Texts are in order
when their bytes are.
-/

namespace Rescan.Text.Utf8

/-- The code points of characters leave out the surrogates. -/
theorem toNat_cases (c : Char) : c.toNat < 0xD800 ∨ 0xDFFF < c.toNat ∧ c.toNat < 0x110000 :=
  c.valid

theorem toNat_ofNat_of_lt {n : Nat} (hn : n < 256) : (UInt8.ofNat n).toNat = n := by
  rw [UInt8.toNat_ofNat', Nat.mod_eq_of_lt hn]

theorem isTail_ofNat {low high n : Nat} (hlow : low ≤ n) (hhigh : n ≤ high) (hn : n < 256) :
    isTail low high (UInt8.ofNat n) = true := by
  simp [isTail, toNat_ofNat_of_lt hn, hlow, hhigh]

theorem tailBits_ofNat (n : Nat) : tailBits (UInt8.ofNat (n % 64 + 128)) = n % 64 := by
  rw [tailBits, toNat_ofNat_of_lt (by omega)]
  omega

section Sequences

variable {c : Char} (rest : List UInt8)

theorem next_one (hc : c.toNat ≤ 127) : next (UInt8.ofNat c.toNat) rest = (some c, rest) := by
  unfold next
  rw [toNat_ofNat_of_lt (by omega), if_pos (by omega), Char.ofNat_toNat]

theorem next_two (hlow : 127 < c.toNat) (hhigh : c.toNat ≤ 2047) :
    next (UInt8.ofNat (c.toNat / 64 % 32 + 192)) (UInt8.ofNat (c.toNat % 64 + 128) :: rest) =
      (some c, rest) := by
  have hsecond : secondRange (c.toNat / 64 % 32 + 192) = (0x80, 0xBF) := by
    simp only [secondRange, beq_iff_eq]
    repeat rw [if_neg (by omega)]
  have hcode : ((c.toNat / 64 % 32 + 192) % 0x20) * 0x40 + c.toNat % 64 = c.toNat := by omega
  unfold next
  rw [toNat_ofNat_of_lt (by omega), if_neg (by omega), if_neg (by simp; omega), hsecond]
  dsimp only
  rw [isTail_ofNat (by omega) (by omega) (by omega), if_neg (by simp), if_pos (by omega),
    tailBits_ofNat, hcode, Char.ofNat_toNat]

theorem next_three (hlow : 2047 < c.toNat) (hhigh : c.toNat ≤ 65535) :
    next (UInt8.ofNat (c.toNat / 4096 % 16 + 224)) (UInt8.ofNat (c.toNat / 64 % 64 + 128) ::
      UInt8.ofNat (c.toNat % 64 + 128) :: rest) = (some c, rest) := by
  have hvalid := toNat_cases c
  have hsecond : (secondRange (c.toNat / 4096 % 16 + 224)).1 ≤ c.toNat / 64 % 64 + 128 ∧
      c.toNat / 64 % 64 + 128 ≤ (secondRange (c.toNat / 4096 % 16 + 224)).2 := by
    simp only [secondRange, beq_iff_eq]
    repeat' split
    all_goals omega
  have hcode : (((c.toNat / 4096 % 16 + 224) % 0x10) * 0x40 + c.toNat / 64 % 64) * 0x40 +
      c.toNat % 64 = c.toNat := by omega
  unfold next
  rw [toNat_ofNat_of_lt (by omega), if_neg (by omega), if_neg (by simp; omega)]
  dsimp only
  rw [isTail_ofNat hsecond.1 hsecond.2 (by omega), if_neg (by simp), if_neg (by omega),
    isTail_ofNat (by omega) (by omega) (by omega), if_neg (by simp), if_pos (by omega),
    tailBits_ofNat, tailBits_ofNat, hcode, Char.ofNat_toNat]

theorem next_four (hlow : 65535 < c.toNat) :
    next (UInt8.ofNat (c.toNat / 262144 % 8 + 240)) (UInt8.ofNat (c.toNat / 4096 % 64 + 128) ::
      UInt8.ofNat (c.toNat / 64 % 64 + 128) :: UInt8.ofNat (c.toNat % 64 + 128) :: rest) =
      (some c, rest) := by
  have hvalid := toNat_cases c
  have hsecond : (secondRange (c.toNat / 262144 % 8 + 240)).1 ≤ c.toNat / 4096 % 64 + 128 ∧
      c.toNat / 4096 % 64 + 128 ≤ (secondRange (c.toNat / 262144 % 8 + 240)).2 := by
    simp only [secondRange, beq_iff_eq]
    repeat' split
    all_goals omega
  have hcode : ((((c.toNat / 262144 % 8 + 240) % 0x08) * 0x40 + c.toNat / 4096 % 64) * 0x40 +
      c.toNat / 64 % 64) * 0x40 + c.toNat % 64 = c.toNat := by omega
  unfold next
  rw [toNat_ofNat_of_lt (by omega), if_neg (by omega), if_neg (by simp; omega)]
  dsimp only
  rw [isTail_ofNat hsecond.1 hsecond.2 (by omega), if_neg (by simp), if_neg (by omega),
    isTail_ofNat (by omega) (by omega) (by omega), if_neg (by simp), if_neg (by omega),
    isTail_ofNat (by omega) (by omega) (by omega), if_neg (by simp), tailBits_ofNat,
    tailBits_ofNat, tailBits_ofNat, hcode, Char.ofNat_toNat]

end Sequences

/-- Reading the bytes of a character gives the character and what follows it. -/
theorem parts_utf8EncodeChar_append (c : Char) (rest : List UInt8) :
    parts (String.utf8EncodeChar c ++ rest) = some c :: parts rest := by
  have hval : c.val.toNat = c.toNat := rfl
  simp only [String.utf8EncodeChar, hval]
  split
  next hone => rw [List.singleton_append, parts, next_one rest hone]
  next hone =>
    split
    next htwo => rw [List.cons_append, List.singleton_append, parts, next_two rest (by omega) htwo]
    next htwo =>
      split
      next hthree =>
        rw [List.cons_append, List.cons_append, List.singleton_append, parts,
          next_three rest (by omega) hthree]
      next hthree =>
        rw [List.cons_append, List.cons_append, List.cons_append, List.singleton_append, parts,
          next_four rest (by omega)]

theorem parts_encode (cs : List Char) : parts (encode cs) = cs.map some := by
  induction cs with
  | nil => simp [encode, parts]
  | cons c rest ih =>
      rw [encode, List.flatMap_cons, parts_utf8EncodeChar_append, List.map_cons]
      exact congrArg _ ih

theorem mapM_id_map_some {α : Type} (list : List α) : (list.map some).mapM id = some list := by
  rw [List.mapM_map]
  exact (List.mapM_pure (f := fun a => a)).trans (congrArg some (List.map_id' list))

@[simp] theorem decode?_encode (cs : List Char) :
    decode? (encode cs) = some (String.ofList cs) := by
  rw [decode?, parts_encode, mapM_id_map_some, Option.map_some]

@[simp] theorem decodeLossy_encode (cs : List Char) :
    decodeLossy (encode cs) = String.ofList cs := by
  have hsame : (fun part : Option Char => part.getD replacement) ∘ some = id := rfl
  rw [decodeLossy, parts_encode, List.map_map, hsame, List.map_id]

/-! ## Order -/

theorem ofNat_lt_ofNat {m n : Nat} (hm : m < 256) (hn : n < 256) :
    UInt8.ofNat m < UInt8.ofNat n ↔ m < n := by
  rw [UInt8.lt_iff_toNat_lt, toNat_ofNat_of_lt hm, toNat_ofNat_of_lt hn]

theorem ofNat_eq_ofNat {m n : Nat} (hm : m < 256) (hn : n < 256) :
    UInt8.ofNat m = UInt8.ofNat n ↔ m = n := by
  rw [← UInt8.toNat_inj, toNat_ofNat_of_lt hm, toNat_ofNat_of_lt hn]

theorem digits_lt {m n : Nat} (hlt : m < n) :
    m / 262144 < n / 262144 ∨ m / 262144 = n / 262144 ∧
      (m / 4096 % 64 < n / 4096 % 64 ∨ m / 4096 % 64 = n / 4096 % 64 ∧
        (m / 64 % 64 < n / 64 % 64 ∨ m / 64 % 64 = n / 64 % 64 ∧ m % 64 < n % 64)) := by
  have hdigit {i j : Nat} (h : i < j) : i / 64 < j / 64 ∨ i / 64 = j / 64 ∧ i % 64 < j % 64 := by
    omega
  have hdiv (i : Nat) : i / 4096 = i / 64 / 64 ∧ i / 262144 = i / 64 / 64 / 64 := by omega
  simp only [hdiv]
  rcases hdigit hlt with hlt | ⟨heq, hlt⟩
  · rcases hdigit hlt with hlt | ⟨heq, hlt⟩
    · rcases hdigit hlt with hlt | ⟨heq, hlt⟩
      · simp [hlt]
      · simp [hlt, heq]
    · simp [hlt, heq]
  · simp [hlt, heq]

/-- The bytes of characters tell at once which of them comes first. -/
theorem utf8EncodeChar_append_lt {c d : Char} (hlt : c < d) (cs ds : List UInt8) :
    String.utf8EncodeChar c ++ cs < String.utf8EncodeChar d ++ ds := by
  have hcode : c.toNat < d.toNat := hlt
  have hc := toNat_cases c
  have hd := toNat_cases d
  have hval (e : Char) : e.val.toNat = e.toNat := rfl
  simp only [String.utf8EncodeChar, hval]
  -- The numbers differ first in one of their digits to the base 64, and so do the bytes.
  have hdigits := digits_lt hcode
  repeat' split
  all_goals
    simp (disch := omega) only [List.cons_append, List.cons_lt_cons_iff, ofNat_lt_ofNat,
      ofNat_eq_ofNat, Nat.mod_eq_of_lt]
    omega

/-- Texts in the order of their code points are in the order of their bytes. -/
theorem encode_lt_encode {cs ds : List Char} (hlt : cs < ds) : encode cs < encode ds := by
  induction (hlt : List.Lex (· < ·) cs ds) with
  | @nil d ds =>
      rw [encode, encode, List.flatMap_nil, List.flatMap_cons]
      cases hd : String.utf8EncodeChar d with
      | nil => exact absurd hd String.utf8EncodeChar_ne_nil
      | cons byte bytes => exact List.nil_lt_cons ..
  | rel hlt => exact utf8EncodeChar_append_lt hlt ..
  | cons _ ih => exact List.append_left_lt ih

end Rescan.Text.Utf8
