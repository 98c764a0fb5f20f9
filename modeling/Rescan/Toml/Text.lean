import Rescan.Text.Basic

/-! # Texts in TOML

A text stands between quotation marks, in which escapes are read, or between apostrophes, in
which nothing is escaped. Three marks on either side make a text that may run over several
lines; a line end right after the opening marks is left out.
-/

namespace Rescan.Toml

def isBlank (c : Char) : Bool := c == ' ' || c == '\t'

/-- The input without the blanks at its beginning. -/
def skipBlanks (input : List Char) : List Char := input.dropWhile isBlank

/-- A character that may stand anywhere in a line: no control character but the tab. -/
def isLineChar (c : Char) : Bool := c == '\t' || (0x20 ≤ c.toNat && c.toNat != 0x7F)

def scalar? (n : Nat) : Option Char :=
  if n < 0xD800 ∨ (0xDFFF < n ∧ n < 0x110000) then some (Char.ofNat n) else none

/-- The character with a code point written in hexadecimal digits. -/
def hexScalar? (digits : List Char) : Option Char :=
  if digits.all (Text.isDigitOf 16) then scalar? (Text.digitsValue 16 digits) else none

/-- The character that an escape of one letter stands for. -/
def letterEscape? : Char → Option Char
  | 'b' => some '\x08'
  | 't' => some '\t'
  | 'n' => some '\n'
  | 'f' => some '\x0c'
  | 'r' => some '\r'
  | '"' => some '"'
  | '\\' => some '\\'
  | _ => none

/-- Reads a text after its opening quotation mark. -/
def basicBody : List Char → Option (List Char × List Char)
  | [] => none
  | '"' :: rest => some ([], rest)
  | '\\' :: 'u' :: a :: b :: c :: d :: rest => do
    let e ← hexScalar? [a, b, c, d]
    let (cs, after) ← basicBody rest
    return (e :: cs, after)
  | '\\' :: 'U' :: a :: b :: c :: d :: e :: f :: g :: h :: rest => do
    let e ← hexScalar? [a, b, c, d, e, f, g, h]
    let (cs, after) ← basicBody rest
    return (e :: cs, after)
  | '\\' :: letter :: rest => do
    let e ← letterEscape? letter
    let (cs, after) ← basicBody rest
    return (e :: cs, after)
  | c :: rest =>
    if isLineChar c && c != '\\' then do
      let (cs, after) ← basicBody rest
      return (c :: cs, after)
    else none

def literalBody : List Char → Option (List Char × List Char)
  | [] => none
  | '\'' :: rest => some ([], rest)
  | c :: rest =>
    if isLineChar c then do
      let (cs, after) ← literalBody rest
      return (c :: cs, after)
    else none

/-- What ends a text over several lines after three closing marks: at most two more marks belong
to the text. -/
def closing (mark : Char) (rest : List Char) : List Char × List Char :=
  let extra := min 2 (rest.takeWhile (· == mark)).length
  (List.replicate extra mark, rest.drop extra)

def endsLine (input : List Char) : Bool :=
  match skipBlanks input with
  | '\n' :: _ => true
  | '\r' :: '\n' :: _ => true
  | _ => false

/-- Reads a text over several lines after its three opening quotation marks. After a backslash
at the end of a line blanks and line ends are passed over. -/
def multiBasicBody (passing : Bool) : List Char → Option (List Char × List Char)
  | [] => none
  | '\r' :: '\n' :: rest =>
    if passing then multiBasicBody true rest
    else do
      let (cs, after) ← multiBasicBody false rest
      return ('\n' :: cs, after)
  | '\n' :: rest =>
    if passing then multiBasicBody true rest
    else do
      let (cs, after) ← multiBasicBody false rest
      return ('\n' :: cs, after)
  | '"' :: '"' :: '"' :: rest => some (closing '"' rest)
  | '\\' :: 'u' :: a :: b :: c :: d :: rest => do
    let e ← hexScalar? [a, b, c, d]
    let (cs, after) ← multiBasicBody false rest
    return (e :: cs, after)
  | '\\' :: 'U' :: a :: b :: c :: d :: e :: f :: g :: h :: rest => do
    let e ← hexScalar? [a, b, c, d, e, f, g, h]
    let (cs, after) ← multiBasicBody false rest
    return (e :: cs, after)
  | '\\' :: letter :: rest =>
    if endsLine (letter :: rest) then multiBasicBody true (letter :: rest)
    else do
      let e ← letterEscape? letter
      let (cs, after) ← multiBasicBody false rest
      return (e :: cs, after)
  | c :: rest =>
    if passing && isBlank c then multiBasicBody true rest
    else if isLineChar c && c != '\\' then do
      let (cs, after) ← multiBasicBody false rest
      return (c :: cs, after)
    else none

/-- Reads a text over several lines after its three opening apostrophes. -/
def multiLiteralBody : List Char → Option (List Char × List Char)
  | [] => none
  | '\r' :: '\n' :: rest => do
    let (cs, after) ← multiLiteralBody rest
    return ('\n' :: cs, after)
  | '\'' :: '\'' :: '\'' :: rest => some (closing '\'' rest)
  | c :: rest =>
    if isLineChar c || c == '\n' then do
      let (cs, after) ← multiLiteralBody rest
      return (c :: cs, after)
    else none

/-- The input without a line end at its beginning. -/
def dropLineEnd : List Char → List Char
  | '\n' :: rest => rest
  | '\r' :: '\n' :: rest => rest
  | input => input

def lineText? : List Char → Option (List Char × List Char)
  | '"' :: rest => basicBody rest
  | '\'' :: rest => literalBody rest
  | _ => none

def text? : List Char → Option (List Char × List Char)
  | '"' :: '"' :: '"' :: rest => multiBasicBody false (dropLineEnd rest)
  | '\'' :: '\'' :: '\'' :: rest => multiLiteralBody (dropLineEnd rest)
  | input => lineText? input

end Rescan.Toml
