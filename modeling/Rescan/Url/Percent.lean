import Rescan.Text.Basic
import Rescan.Text.Utf8

/-! # Percent encoding

A character outside a set of plain ones is written as its bytes, each as a percent sign and
two upper-case hexadecimal digits. Which characters are plain depends on the part of a URL;
control characters and characters outside ASCII never are.
-/

namespace Rescan.Url.Percent

def upperDigit (n : Nat) : Char := (Text.digitChar n).toUpper

def encodeByte (b : UInt8) : List Char :=
  ['%', upperDigit (b.toNat / 16), upperDigit (b.toNat % 16)]

/-- Whether a character is written as it is wherever no character is special. -/
def isPrintable (c : Char) : Bool := 0x20 ≤ c.toNat && c.toNat < 0x7F

/-- Text with every character encoded that is not printable or is one of the special ones. -/
def encode (special : List Char) (cs : List Char) : List Char :=
  cs.flatMap fun c =>
    if isPrintable c && !special.contains c then [c]
    else (String.utf8EncodeChar c).flatMap encodeByte

def fragmentSet : List Char := [' ', '"', '<', '>', '\x60']

def pathSet : List Char := fragmentSet ++ ['#', '?', '\x7b', '\x7d']

/-- The special characters of a user name and a password. -/
def userSet : List Char := pathSet ++ ['/', ':', ';', '=', '@', '[', '\\', ']', '^', '|']

def querySet : List Char := [' ', '"', '#', '<', '>']

/-- The special characters of a query of the schemes with an authority. -/
def specialQuerySet : List Char := querySet ++ ['\'']

/-- The bytes that a text stands for. A percent sign without two digits after it stands for
itself. -/
def decode : List Char → List UInt8
  | [] => []
  | '%' :: a :: b :: rest =>
    match Text.digitValue? a, Text.digitValue? b with
    | some x, some y => UInt8.ofNat (16 * x + y) :: decode rest
    | _, _ => 0x25 :: decode (a :: b :: rest)
  | c :: rest => String.utf8EncodeChar c ++ decode rest

end Rescan.Url.Percent
