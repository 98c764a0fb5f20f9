/-! # Blanks and numbers in texts

The characters with the Unicode property `White_Space`, and the removal of them from both ends of a
text. Whole numbers written in a base between two and sixteen, and the values of written digits.
-/

namespace Rescan.Text

/-! ## Blank characters

Control characters outside the property, the zero-width space and the byte order mark are not blank.
-/

/-- A character with the Unicode property `White_Space`. -/
def isBlank (c : Char) : Bool :=
  let n := c.toNat
  (0x09 ≤ n && n ≤ 0x0D) || n == 0x20 || n == 0x85 || n == 0xA0 || n == 0x1680 ||
    (0x2000 ≤ n && n ≤ 0x200A) || n == 0x2028 || n == 0x2029 || n == 0x202F ||
    n == 0x205F || n == 0x3000

/-- Drops the longest run of characters satisfying `p` at the end of a list. -/
def dropEndWhile (p : Char → Bool) (cs : List Char) : List Char :=
  (cs.reverse.dropWhile p).reverse

/-- Drops the characters satisfying `p` at both ends of a list. -/
def trimWhile (p : Char → Bool) (cs : List Char) : List Char :=
  dropEndWhile p (cs.dropWhile p)

/-- The text without the blank characters at its ends. -/
def trim (s : String) : String :=
  String.ofList (trimWhile isBlank s.toList)

/-- Upper-case letters `A` to `Z` in lower case; every other character is kept. -/
def asciiLower (s : String) : String :=
  String.ofList (s.toList.map Char.toLower)

/-! ## Digits -/

/-- The digit, in lower case, of a value below sixteen. -/
def digitChar (n : Nat) : Char :=
  if n < 10 then Char.ofNat ('0'.toNat + n) else Char.ofNat ('a'.toNat + (n - 10))

/-- The digits of a number in a base, the most significant first. A number is not shortened to
nothing: zero is one digit. -/
def digits (base : Nat) (n : Nat) : List Char :=
  if _h : base < 2 ∨ n < base then [digitChar n]
  else digits base (n / base) ++ [digitChar (n % base)]
termination_by n
decreasing_by exact Nat.div_lt_self (by omega) (by omega)

def decimal (n : Nat) : String := String.ofList (digits 10 n)

/-- The value of a digit in bases up to sixteen, in either case. -/
def digitValue? (c : Char) : Option Nat :=
  if c.isDigit then some (c.toNat - '0'.toNat)
  else if 'a' ≤ c && c ≤ 'f' then some (c.toNat - 'a'.toNat + 10)
  else if 'A' ≤ c && c ≤ 'F' then some (c.toNat - 'A'.toNat + 10)
  else none

/-- Whether a character is a digit of the base. -/
def isDigitOf (base : Nat) (c : Char) : Bool :=
  match digitValue? c with
  | some v => v < base
  | none => false

/-- The value of digits in a base, the most significant first. -/
def digitsValue (base : Nat) (cs : List Char) : Nat :=
  cs.foldl (fun n c => base * n + (digitValue? c).getD 0) 0

/-! ## Unsigned decimal numbers

A number is one or more ASCII digits, with at most one plus sign before them and nothing
else around them. Reading takes the largest admitted value.
-/

def maxWord : Nat := 18446744073709551615

def maxPort : Nat := 65535

def readDigits? (cs : List Char) : Option Nat :=
  if !cs.isEmpty && cs.all Char.isDigit then some (digitsValue 10 cs) else none

/-- Reads an unsigned decimal number that is at most `bound`. -/
def readUnsigned? (bound : Nat) (s : String) : Option Nat :=
  let digits := match s.toList with
    | '+' :: rest => rest
    | cs => cs
  (readDigits? digits).filter (· ≤ bound)

end Rescan.Text
