/-! # Punycode

Characters outside ASCII are written as the differences between their code points in ascending
order, after the ASCII characters of the text. A difference has a variable number of digits in
base thirty-six; how many depends on a bias that adapts to the differences before it.
-/

namespace Rescan.Url.Punycode

/-- The digit of a value below thirty-six: letters first. -/
def digitChar (d : Nat) : Char :=
  if d < 26 then Char.ofNat ('a'.toNat + d) else Char.ofNat ('0'.toNat + (d - 26))

def digitValue? (c : Char) : Option Nat :=
  if 'a' ≤ c ∧ c ≤ 'z' then some (c.toNat - 'a'.toNat)
  else if 'A' ≤ c ∧ c ≤ 'Z' then some (c.toNat - 'A'.toNat)
  else if c.isDigit then some (c.toNat - '0'.toNat + 26)
  else none

/-- The threshold of the digit at position `k`, which counts in steps of thirty-six. -/
def threshold (k bias : Nat) : Nat :=
  if k ≤ bias then 1 else if bias + 26 ≤ k then 26 else k - bias

theorem threshold_bounds (k bias : Nat) : 1 ≤ threshold k bias ∧ threshold k bias ≤ 26 := by
  unfold threshold
  split
  · omega
  · split <;> omega

/-- Divides a difference until it is small and counts the positions. -/
def settle (delta k : Nat) : Nat × Nat :=
  if 455 < delta then settle (delta / 35) (k + 36) else (delta, k)
termination_by delta
decreasing_by exact Nat.div_lt_self (by omega) (by omega)

/-- The bias after a difference, of which `count` characters are written. -/
def adapt (delta count : Nat) (first : Bool) : Nat :=
  let scaled := if first then delta / 700 else delta / 2
  let (small, k) := settle (scaled + scaled / count) 0
  k + 36 * small / (small + 38)

def deltaDigits (bias k q : Nat) : List Char :=
  let t := threshold k bias
  if q < t then [digitChar q]
  else digitChar (t + (q - t) % (36 - t)) :: deltaDigits bias (k + 36) ((q - t) / (36 - t))
termination_by q
decreasing_by
  have := threshold_bounds k bias
  exact Nat.lt_of_le_of_lt (Nat.div_le_self _ _) (by omega)

/-- What has been written so far. -/
structure Progress where
  written : List Char
  delta : Nat
  bias : Nat
  count : Nat

/-- Passes one character while the characters with code point `code` are written. -/
def pass (basic code : Nat) (state : Progress) (c : Char) : Progress :=
  if c.toNat < code then { state with delta := state.delta + 1 }
  else if c.toNat = code then
    { written := state.written ++ deltaDigits state.bias 36 state.delta
      delta := 0
      bias := adapt state.delta (state.count + 1) (state.count == basic)
      count := state.count + 1 }
  else state

/-- The code points outside ASCII, in ascending order without repetition. -/
def codes (cs : List Char) : List Nat :=
  (((cs.map Char.toNat).filter (128 ≤ ·)).eraseDups).mergeSort

def encode (cs : List Char) : List Char :=
  let basic := cs.filter fun c => c.toNat < 128
  let start : Progress :=
    ⟨if basic.isEmpty then [] else basic ++ ['-'], 0, 72, basic.length⟩
  ((codes cs).foldl (fun (state, next) code =>
    let begun := { state with delta := state.delta + (code - next) * (state.count + 1) }
    let done := cs.foldl (pass basic.length code) begun
    ({ done with delta := done.delta + 1 }, code + 1)) (start, 128)).1.written

/-- Reads a difference that is added to `i`, with `weight` as the worth of its next digit. -/
def readDelta (bias k i weight : Nat) : List Char → Option (Nat × List Char)
  | [] => none
  | c :: rest =>
    match digitValue? c with
    | none => none
    | some d =>
      let t := threshold k bias
      if d < t then some (i + d * weight, rest)
      else readDelta bias (k + 36) (i + d * weight) (weight * (36 - t)) rest

theorem length_readDelta_lt {bias k i weight j : Nat} {input rest : List Char}
    (h : readDelta bias k i weight input = some (j, rest)) : rest.length < input.length := by
  induction input generalizing k i weight with
  | nil => simp [readDelta] at h
  | cons c tail ih =>
    simp only [readDelta] at h
    split at h
    · simp at h
    · split at h
      · simp only [Option.some.injEq, Prod.mk.injEq] at h
        rw [← h.2]
        exact Nat.lt_succ_self _
      · exact Nat.lt_succ_of_lt (ih h)

/-- Reads differences and puts their characters into the text read so far. -/
def insertAll (done : List Char) (code i bias : Nat) (input : List Char) : Option (List Char) :=
  if input.isEmpty then some done
  else
    match h : readDelta bias 36 i 1 input with
    | none => none
    | some (j, rest) =>
      have := length_readDelta_lt h
      let size := done.length + 1
      let code := code + j / size
      if code < 0xD800 ∨ (0xDFFF < code ∧ code < 0x110000) then
        let place := j % size
        insertAll (done.take place ++ Char.ofNat code :: done.drop place) code (place + 1)
          (adapt (j - i) size (i == 0)) rest
      else none
termination_by input.length

/-- The part before the last hyphen, if there is one, and the part after it. -/
def splitBasic (cs : List Char) : List Char × List Char :=
  let after := (cs.reverse.takeWhile (· != '-')).reverse
  let before := (cs.reverse.dropWhile (· != '-')).drop 1 |>.reverse
  if before.isEmpty then ([], cs) else (before, after)

def decode (cs : List Char) : Option (List Char) :=
  let (basic, rest) := splitBasic cs
  if basic.all fun c => c.toNat < 128 then insertAll basic 128 0 72 rest else none

end Rescan.Url.Punycode
