import Rescan.Text.Basic
import Rescan.Toml.Basic

/-! # Numbers and moments in TOML

Whole numbers are written in decimal with an optional sign, or in another base after a zero and
a letter; they fit into 64 bits. Underscores may stand between digits. Dates are checked
against the calendar.
-/

namespace Rescan.Toml

/-- The digits of a base with underscores between them, without the underscores. -/
def separatedDigits? (base : Nat) : List Char → Option (List Char)
  | [] => none
  | [c] => if Text.isDigitOf base c then some [c] else none
  | c :: '_' :: rest =>
    if Text.isDigitOf base c then (separatedDigits? base rest).map (c :: ·) else none
  | c :: rest =>
    if Text.isDigitOf base c then (separatedDigits? base rest).map (c :: ·) else none

/-- A sign, if there is one, as whether it is a minus, and what follows it. -/
def cutSign : List Char → Bool × List Char
  | '-' :: rest => (true, rest)
  | '+' :: rest => (false, rest)
  | cs => (false, cs)

/-- Decimal digits without a zero before others. -/
def wholeDigits? (cs : List Char) : Option (List Char) :=
  match cs with
  | '0' :: _ :: _ => none
  | _ => separatedDigits? 10 cs

/-- A number that fits into 64 bits with its sign. -/
def fitting? (n : Int) : Option Int :=
  if -(maxInteger : Int) - 1 ≤ n ∧ n ≤ (maxInteger : Int) then some n else none

def integer? (token : List Char) : Option Int :=
  let based (base : Nat) (cs : List Char) : Option Int :=
    (separatedDigits? base cs).bind fun digits => fitting? (Text.digitsValue base digits)
  match token with
  | '0' :: 'x' :: rest => based 16 rest
  | '0' :: 'o' :: rest => based 8 rest
  | '0' :: 'b' :: rest => based 2 rest
  | _ =>
    let (negative, cs) := cutSign token
    (wholeDigits? cs).bind fun digits =>
      let n : Int := Text.digitsValue 10 digits
      fitting? (if negative then -n else n)

def isExponent (cs : List Char) : Bool := (separatedDigits? 10 (cutSign cs).2).isSome

/-- Whether a token is a number with a fraction or an exponent, or one that is no number or
infinite. -/
def isFloat (token : List Char) : Bool :=
  let cs := (cutSign token).2
  let isExponentLetter (c : Char) : Bool := c == 'e' || c == 'E'
  let mantissa := cs.takeWhile (!isExponentLetter ·)
  let exponent := cs.dropWhile (!isExponentLetter ·)
  let whole := mantissa.takeWhile (· != '.')
  let fraction := mantissa.dropWhile (· != '.')
  [['i', 'n', 'f'], ['n', 'a', 'n']].contains cs ||
    ((wholeDigits? whole).isSome &&
      (!fraction.isEmpty || !exponent.isEmpty) &&
      (fraction.isEmpty || (separatedDigits? 10 (fraction.drop 1)).isSome) &&
      (exponent.isEmpty || isExponent (exponent.drop 1)))

/-- A number of exactly `count` decimal digits, and what follows them. -/
def fixedDigits? (count : Nat) (cs : List Char) : Option (Nat × List Char) :=
  let digits := cs.take count
  if digits.length = count ∧ digits.all Char.isDigit then
    some (Text.digitsValue 10 digits, cs.drop count)
  else none

def after? (c : Char) : List Char → Option (List Char)
  | [] => none
  | d :: rest => if d = c then some rest else none

def daysOfMonth (year month : Nat) : Nat :=
  if month = 2 then
    if year % 4 = 0 ∧ (year % 100 ≠ 0 ∨ year % 400 = 0) then 29 else 28
  else if month = 4 ∨ month = 6 ∨ month = 9 ∨ month = 11 then 30
  else 31

/-- What follows a date. -/
def afterDate? (cs : List Char) : Option (List Char) := do
  let (year, rest) ← fixedDigits? 4 cs
  let (month, rest) ← fixedDigits? 2 (← after? '-' rest)
  let (day, rest) ← fixedDigits? 2 (← after? '-' rest)
  if 1 ≤ month ∧ month ≤ 12 ∧ 1 ≤ day ∧ day ≤ daysOfMonth year month then some rest else none

/-- What follows a time of day. -/
def afterTime? (cs : List Char) : Option (List Char) := do
  let (hour, rest) ← fixedDigits? 2 cs
  let (minute, rest) ← fixedDigits? 2 (← after? ':' rest)
  let (second, rest) ← fixedDigits? 2 (← after? ':' rest)
  if 23 < hour ∨ 59 < minute ∨ 60 < second then none
  else
    match rest with
    | '.' :: fraction =>
      if fraction.head?.any Char.isDigit then some (fraction.dropWhile Char.isDigit) else none
    | _ => some rest

/-- Whether a text is the difference of a time to the time of the world, or empty. -/
def isOffset (cs : List Char) : Bool :=
  match cs with
  | [] | ['Z'] | ['z'] => true
  | sign :: rest =>
    (sign == '+' || sign == '-') &&
      (do
        let (hour, rest) ← fixedDigits? 2 rest
        let (minute, rest) ← fixedDigits? 2 (← after? ':' rest)
        return hour ≤ 23 && minute ≤ 59 && rest.isEmpty : Option Bool).getD false

def isTime (token : List Char) : Bool := (afterTime? token).any List.isEmpty

/-- Whether a token is a time of day that may have an offset. -/
def isOffsetTime (token : List Char) : Bool := (afterTime? token).any isOffset

def isDate (token : List Char) : Bool := (afterDate? token).any List.isEmpty

/-- Whether a token is a date, a time of day, or a date and a time. -/
def isMoment (token : List Char) : Bool :=
  isTime token ||
    match afterDate? token with
    | none => false
    | some [] => true
    | some (c :: rest) => (c == 'T' || c == 't') && isOffsetTime rest

/-- A character of the longest text that can be a number or a moment. -/
def isTokenChar (c : Char) : Bool :=
  c.isAlphanum || c == '_' || c == '+' || c == '-' || c == '.' || c == ':'

def tokenValue? (token : List Char) : Option Value :=
  if token = ['t', 'r', 'u', 'e'] then some (.flag true)
  else if token = ['f', 'a', 'l', 's', 'e'] then some (.flag false)
  else
    match integer? token with
    | some n => some (.integer n)
    | none =>
      if isFloat token then some (.float token)
      else if isMoment token then some (.moment token)
      else none

/-- Reads a word, a number or a moment. A date may be followed by a blank and a time. -/
def scalar (input : List Char) : Option (Value × List Char) :=
  let token := input.takeWhile isTokenChar
  let rest := input.dropWhile isTokenChar
  match rest with
  | ' ' :: more =>
    let time := more.takeWhile isTokenChar
    if isDate token && isOffsetTime time then
      some (.moment (token ++ ' ' :: time), more.dropWhile isTokenChar)
    else (tokenValue? token).map (·, rest)
  | _ => (tokenValue? token).map (·, rest)

end Rescan.Toml
