import Mathlib.Data.List.Basic
import Mathlib.Tactic.IntervalCases
import Rescan.Text.Double

/-! # Written numbers

The digits of a number are read as the number. No zero stands before other digits, and how many
digits there are is told by the size of the number. Double precision keeps small numbers as they
are, so that they are written in all their digits.
-/

namespace Rescan.Text

/-! ## What follows -/

/-- A text that does not go on with a character of a class. -/
def Stops (p : Char → Bool) (rest : List Char) : Prop := ∀ c ∈ rest.head?, p c = false

@[simp] theorem stops_nil (p : Char → Bool) : Stops p [] := fun _ hmem => (by cases hmem)

@[simp] theorem stops_cons {p : Char → Bool} {c : Char} {rest : List Char} :
    Stops p (c :: rest) ↔ p c = false := by
  simp [Stops]

section Stops

variable {p : Char → Bool} {cs rest : List Char} (hall : ∀ c ∈ cs, p c = true)

theorem Stops.takeWhile_eq_nil (hrest : Stops p rest) : rest.takeWhile p = [] := by
  cases rest with
  | nil => rfl
  | cons c rest => rw [List.takeWhile_cons_of_neg (by simp [stops_cons.mp hrest])]

theorem Stops.dropWhile_eq_self (hrest : Stops p rest) : rest.dropWhile p = rest := by
  cases rest with
  | nil => rfl
  | cons c rest => rw [List.dropWhile_cons_of_neg (by simp [stops_cons.mp hrest])]

include hall

/-- A text of a class is what is taken of it when nothing of the class follows. -/
theorem Stops.takeWhile_append (hrest : Stops p rest) : (cs ++ rest).takeWhile p = cs := by
  rw [List.takeWhile_append_of_pos hall, hrest.takeWhile_eq_nil, List.append_nil]

theorem Stops.dropWhile_append (hrest : Stops p rest) : (cs ++ rest).dropWhile p = rest := by
  rw [List.dropWhile_append_of_pos hall, hrest.dropWhile_eq_self]

end Stops

/-! ## Digits -/

theorem digitValue?_digitChar {d : Nat} (hd : d < 16) : digitValue? (digitChar d) = some d := by
  interval_cases d <;> rfl

theorem isDigit_digitChar {d : Nat} (hd : d < 10) : (digitChar d).isDigit = true := by
  interval_cases d <;> rfl

section Base

variable {base : Nat}

theorem digits_of_lt {n : Nat} (hn : n < base) : digits base n = [digitChar n] := by
  rw [digits, dif_pos (Or.inr hn)]

theorem digits_of_le (hbase : 2 ≤ base) {n : Nat} (hn : base ≤ n) :
    digits base n = digits base (n / base) ++ [digitChar (n % base)] := by
  rw [digits, dif_neg (by omega)]

theorem digits_ne_nil (n : Nat) : digits base n ≠ [] := by
  rw [digits]
  split <;> simp

variable (hbase : 2 ≤ base)

include hbase

/-- Digit by digit: what holds of numbers of one digit, and goes over from a number to the numbers
with one more digit behind it, holds of every number. -/
theorem digits_induction {motive : Nat → List Char → Prop}
    (one : ∀ n < base, motive n [digitChar n])
    (more : ∀ n, base ≤ n → motive (n / base) (digits base (n / base)) →
      motive n (digits base (n / base) ++ [digitChar (n % base)])) (n : Nat) :
    motive n (digits base n) := by
  induction n using Nat.strong_induction_on with
  | _ n ih =>
      by_cases hn : n < base
      · rw [digits_of_lt hn]
        exact one n hn
      · rw [digits_of_le hbase (by omega)]
        exact more n (by omega) (ih (n / base) (Nat.div_lt_self (by omega) (by omega)))

theorem exists_of_mem_digits {n : Nat} {c : Char} (hmem : c ∈ digits base n) :
    ∃ d < base, c = digitChar d := by
  induction n using digits_induction hbase with
  | one n hn => exact ⟨n, hn, List.mem_singleton.mp hmem⟩
  | more n _ ih =>
      rcases List.mem_append.mp hmem with hmem | hmem
      · exact ih hmem
      · exact ⟨n % base, Nat.mod_lt n (by omega), List.mem_singleton.mp hmem⟩

/-- A number has at most as many digits as a power of the base above it tells. -/
theorem length_digits_le {n k : Nat} (hk : k ≠ 0) (hn : n < base ^ k) :
    (digits base n).length ≤ k := by
  induction n using digits_induction hbase generalizing k with
  | one n _ => exact Nat.one_le_iff_ne_zero.mpr hk
  | more n hlarge ih =>
      obtain ⟨k, rfl⟩ := Nat.exists_eq_succ_of_ne_zero hk
      have hquotient : n / base < base ^ k := by
        rw [Nat.div_lt_iff_lt_mul (by omega)]
        exact hn
      have hpos : 0 < n / base := Nat.div_pos hlarge (by omega)
      have hk : k ≠ 0 := by
        rintro rfl
        rw [pow_zero] at hquotient
        omega
      rw [List.length_append, List.length_singleton]
      exact Nat.succ_le_succ (ih hk hquotient)

/-- Only the number zero begins with a zero. -/
theorem head?_digits_ne_zero (hsixteen : base ≤ 16) {n : Nat} (hn : n ≠ 0) :
    (digits base n).head? ≠ some '0' := by
  induction n using digits_induction hbase with
  | one n hlt =>
      intro hzero
      have hvalue := digitValue?_digitChar (show n < 16 by omega)
      rw [Option.some.inj hzero] at hvalue
      exact hn (Option.some.inj hvalue).symm
  | more n hlarge ih =>
      rw [List.head?_append_of_ne_nil _ (digits_ne_nil _)]
      exact ih (by rw [Nat.div_ne_zero_iff]; omega)

theorem digitsValue_digits (hsixteen : base ≤ 16) (n : Nat) :
    digitsValue base (digits base n) = n := by
  induction n using digits_induction hbase with
  | one n hn => simp [digitsValue, digitValue?_digitChar (show n < 16 by omega)]
  | more n _ ih =>
      have hlast : n % base < base := Nat.mod_lt n (by omega)
      rw [digitsValue] at ih ⊢
      rw [List.foldl_append, ih, List.foldl_cons, List.foldl_nil,
        digitValue?_digitChar (by omega), Option.getD_some, Nat.div_add_mod]

theorem isDigitOf_of_mem_digits (hsixteen : base ≤ 16) {n : Nat} {c : Char}
    (hmem : c ∈ digits base n) : isDigitOf base c = true := by
  obtain ⟨d, hd, rfl⟩ := exists_of_mem_digits hbase hmem
  simp [isDigitOf, digitValue?_digitChar (show d < 16 by omega), hd]

end Base

theorem isDigit_of_mem_digits {n : Nat} {c : Char} (hmem : c ∈ digits 10 n) :
    c.isDigit = true := by
  obtain ⟨d, hd, rfl⟩ := exists_of_mem_digits (by decide) hmem
  exact isDigit_digitChar hd

@[simp] theorem toList_decimal (n : Nat) : (decimal n).toList = digits 10 n :=
  String.toList_ofList

/-- A number in decimal digits is read as the number if it is admitted. -/
theorem readUnsigned?_decimal {bound n : Nat} (hn : n ≤ bound) :
    readUnsigned? bound (decimal n) = some n := by
  have hdigits : readDigits? (digits 10 n) = some n := by
    rw [readDigits?, if_pos, digitsValue_digits (by decide) (by decide)]
    simp only [Bool.and_eq_true, Bool.not_eq_true', List.isEmpty_eq_false_iff, List.all_eq_true]
    exact ⟨digits_ne_nil n, fun c hmem => isDigit_of_mem_digits hmem⟩
  rw [readUnsigned?, toList_decimal]
  split
  next rest hplus =>
    have hdigit : '+'.isDigit = true :=
      isDigit_of_mem_digits (n := n) (hplus ▸ List.mem_cons_self)
    cases hdigit
  · rw [hdigits]
    simp [hn]

/-! ## Double precision -/

namespace Double

/-- A number of up to 53 bits is kept as it is. -/
theorem round_of_lt {n : Nat} (hbound : n < 2 ^ 53) : round n = n := by
  have hexcess : excess n = 0 := by
    have hlog : n.log2 ≤ 52 := by
      rcases Nat.eq_zero_or_pos n with rfl | hpos
      · decide
      · exact Nat.le_of_lt_succ ((Nat.log2_lt (Nat.ne_of_gt hpos)).mpr hbound)
    unfold excess precision
    omega
  simp [round, hexcess, Nat.mod_one]

/-- No larger number is kept as one of up to 53 bits. -/
theorem le_round {n : Nat} (hlarge : 2 ^ 53 ≤ n) : 2 ^ 53 ≤ round n := by
  have hpositive : n ≠ 0 := by
    rintro rfl
    exact absurd hlarge (by decide)
  have hlog : 53 ≤ n.log2 := (Nat.le_log2 hpositive).mpr hlarge
  have hbits : 52 + excess n = n.log2 := by
    unfold excess precision
    omega
  have hkept : 2 ^ 52 ≤ n / 2 ^ excess n := by
    rw [Nat.le_div_iff_mul_le (Nat.two_pow_pos _), ← Nat.pow_add, hbits]
    exact Nat.log2_self_le hpositive
  calc
    2 ^ 53 ≤ 2 ^ n.log2 := Nat.pow_le_pow_right (by decide) hlog
    _ = 2 ^ 52 * 2 ^ excess n := by rw [← Nat.pow_add, hbits]
    _ ≤ n / 2 ^ excess n * 2 ^ excess n := Nat.mul_le_mul_right _ hkept
    _ ≤ round n := by
      simp only [round]
      split
      · exact Nat.mul_le_mul_right _ (Nat.le_succ _)
      · exact Nat.le_refl _

theorem eq_of_round_eq {m n : Nat} (hround : round m = n) (hbound : n < 2 ^ 53) : m = n := by
  rcases Nat.lt_or_ge m (2 ^ 53) with hm | hm
  · rw [← hround, round_of_lt hm]
  · have hlarge := le_round hm
    omega

/-- Only the number itself reads back as it. -/
theorem shortestFrom_of_lt {value : Nat} (hbound : value < 2 ^ 53) (places : Nat) :
    shortestFrom value places = value := by
  induction places with
  | zero => rfl
  | succ places ih =>
      rw [shortestFrom]
      cases hnearby : nearby? value (Nat.pow 10 (places + 1)) with
      | none => exact ih
      | some candidate =>
          have hround := List.find?_some hnearby
          exact eq_of_round_eq (beq_iff_eq.mp hround) hbound

theorem render_of_lt {n : Nat} (hbound : n < 2 ^ 53) : render n = decimal n := by
  rw [render, round_of_lt hbound, shortest, shortestFrom_of_lt hbound]

end Double

end Rescan.Text
