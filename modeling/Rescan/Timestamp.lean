import Rescan.Text.Basic

/-! # Timestamps

A point in time is a number of milliseconds before or after the beginning of 1970, in
coordinated universal time. It is written as a date and a time of day; years outside the four
digits carry a sign. Only a span of years around the present can be written.
-/

namespace Rescan

/-- A point in time. -/
structure Timestamp where
  millis : Int
  deriving DecidableEq, Repr, Inhabited

/-- A day of the calendar. -/
structure Timestamp.Day where
  year : Int
  month : Nat
  day : Nat
  deriving DecidableEq, Repr

namespace Timestamp

/-- A number with zeros before it up to a width. -/
def padded (width n : Nat) : String :=
  let digits := Text.digits 10 n
  String.ofList (List.replicate (width - digits.length) '0' ++ digits)

/-- The day that is a number of days after the first of January 1970. The calendar repeats
every 146097 days, and its years are counted from March. -/
def dayOf (days : Int) : Day :=
  let shifted := days + 719468
  let era := shifted.fdiv 146097
  let dayOfEra := (shifted - era * 146097).toNat
  let yearOfEra := (dayOfEra - dayOfEra / 1460 + dayOfEra / 36524 - dayOfEra / 146096) / 365
  let dayOfYear := dayOfEra - (365 * yearOfEra + yearOfEra / 4 - yearOfEra / 100)
  let shiftedMonth := (5 * dayOfYear + 2) / 153
  let month := if shiftedMonth < 10 then shiftedMonth + 3 else shiftedMonth - 9
  { year := yearOfEra + era * 400 + (if month ≤ 2 then 1 else 0)
    month := month
    day := dayOfYear - (153 * shiftedMonth + 2) / 5 + 1 }

def renderYear (year : Int) : String :=
  if 0 ≤ year ∧ year ≤ 9999 then padded 4 year.toNat
  else (if year < 0 then "-" else "+") ++ padded 4 year.natAbs

def render (time : Timestamp) : String :=
  let days := time.millis.fdiv 86400000
  let rest := (time.millis - days * 86400000).toNat
  let day := dayOf days
  let fraction := if rest % 1000 = 0 then "" else "." ++ padded 3 (rest % 1000)
  renderYear day.year ++ "-" ++ padded 2 day.month ++ "-" ++ padded 2 day.day ++ "T" ++
    padded 2 (rest / 3600000) ++ ":" ++ padded 2 (rest / 60000 % 60) ++ ":" ++
    padded 2 (rest / 1000 % 60) ++ fraction ++ "Z"

/-- Whether a point in time lies in the years that can be written. -/
def isInRange (time : Timestamp) : Bool :=
  let year := (dayOf (time.millis.fdiv 86400000)).year
  year ≤ 262142 && -262143 ≤ year

end Timestamp

end Rescan
