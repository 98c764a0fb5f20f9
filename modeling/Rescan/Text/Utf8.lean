/-! # UTF-8

Reading of byte sequences as text. A byte sequence that is not well formed is either
refused or read with one replacement character for each maximal ill-formed part.
-/

namespace Rescan.Text.Utf8

/-- The character that stands for an ill-formed part. -/
def replacement : Char := Char.ofNat 0xFFFD

/-- A byte that continues a sequence, when its value lies in the given range. -/
def isTail (low high : Nat) (b : UInt8) : Bool :=
  low ≤ b.toNat && b.toNat ≤ high

def tailBits (b : UInt8) : Nat := b.toNat % 0x40

/-- The range of the second byte, by the first one. -/
def secondRange (lead : Nat) : Nat × Nat :=
  if lead == 0xE0 then (0xA0, 0xBF)
  else if lead == 0xED then (0x80, 0x9F)
  else if lead == 0xF0 then (0x90, 0xBF)
  else if lead == 0xF4 then (0x80, 0x8F)
  else (0x80, 0xBF)

/-- The character that begins with byte `lead` and the bytes after it. Without a character
the result is what follows the ill-formed part, which is as long as it can be while it still
begins a character. -/
def next (lead : UInt8) (rest : List UInt8) : Option Char × List UInt8 :=
  if lead.toNat < 0x80 then (some (Char.ofNat lead.toNat), rest)
  else if lead.toNat < 0xC2 || 0xF4 < lead.toNat then (none, rest)
  else
    match rest with
    | [] => (none, [])
    | b :: rest₁ =>
      if !isTail (secondRange lead.toNat).1 (secondRange lead.toNat).2 b then (none, b :: rest₁)
      else if lead.toNat < 0xE0 then
        (some (Char.ofNat ((lead.toNat % 0x20) * 0x40 + tailBits b)), rest₁)
      else
        match rest₁ with
        | [] => (none, [])
        | c :: rest₂ =>
          if !isTail 0x80 0xBF c then (none, c :: rest₂)
          else if lead.toNat < 0xF0 then
            (some (Char.ofNat
              (((lead.toNat % 0x10) * 0x40 + tailBits b) * 0x40 + tailBits c)), rest₂)
          else
            match rest₂ with
            | [] => (none, [])
            | d :: rest₃ =>
              if !isTail 0x80 0xBF d then (none, d :: rest₃)
              else
                (some (Char.ofNat
                  ((((lead.toNat % 0x08) * 0x40 + tailBits b) * 0x40 + tailBits c) * 0x40 +
                    tailBits d)), rest₃)

theorem length_next_le (lead : UInt8) (rest : List UInt8) :
    (next lead rest).2.length ≤ rest.length := by
  unfold next
  repeat' split
  all_goals
    simp only [List.length_cons, List.length_nil]
    omega

/-- The characters of a byte sequence, with nothing in place of each ill-formed part. -/
def parts : List UInt8 → List (Option Char)
  | [] => []
  | b :: rest => (next b rest).1 :: parts (next b rest).2
termination_by bytes => bytes.length
decreasing_by exact Nat.lt_succ_of_le (length_next_le b rest)

def decode? (bytes : List UInt8) : Option String :=
  ((parts bytes).mapM id).map String.ofList

/-- The text of a byte sequence, with the replacement character for each ill-formed part. -/
def decodeLossy (bytes : List UInt8) : String :=
  String.ofList ((parts bytes).map (·.getD replacement))

def encode (cs : List Char) : List UInt8 :=
  cs.flatMap String.utf8EncodeChar

def width (c : Char) : Nat := c.utf8Size

end Rescan.Text.Utf8
