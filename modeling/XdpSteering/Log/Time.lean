import XdpSteering.Text.Numeral

/-!
# Times in the log

A time is written as a date of the Gregorian calendar and a time of day, both in universal time and
down to microseconds.
-/

namespace XdpSteering.Log

open XdpSteering.Text

/-- A day of the Gregorian calendar. -/
structure Date where
  year : Nat
  month : Nat
  day : Nat
  deriving DecidableEq, Repr

/-- The day that comes a number of days after the first of January 1970. Years are counted from
March, so that the leap day is the last day of its year, and in cycles of four centuries. -/
def Date.ofDays (days : Nat) : Date :=
  let fromMarch := days + 719468
  let cycle := fromMarch / 146097
  let inCycle := fromMarch % 146097
  let yearOfCycle := (inCycle - inCycle / 1460 + inCycle / 36524 - inCycle / 146096) / 365
  let inYear := inCycle - (365 * yearOfCycle + yearOfCycle / 4 - yearOfCycle / 100)
  let monthFromMarch := (5 * inYear + 2) / 153
  let day := inYear - (153 * monthFromMarch + 2) / 5 + 1
  let month := if monthFromMarch < 10 then monthFromMarch + 3 else monthFromMarch - 9
  let year := cycle * 400 + yearOfCycle + (if month ≤ 2 then 1 else 0)
  { year, month, day }

/-- A number with at least so many digits. -/
def padded (width number : Nat) : String := padLeft width '0' (toString number)

/-- The text of a time, counted in seconds and nanoseconds from the start of 1970. -/
def timeText (seconds nanoseconds : Nat) : String :=
  let date := Date.ofDays (seconds / 86400)
  let ofDay := seconds % 86400
  padded 4 date.year ++ "-" ++ padded 2 date.month ++ "-" ++ padded 2 date.day ++ "T"
    ++ padded 2 (ofDay / 3600) ++ ":" ++ padded 2 (ofDay / 60 % 60) ++ ":" ++ padded 2 (ofDay % 60)
    ++ "." ++ padded 6 (nanoseconds / 1000) ++ "Z"

end XdpSteering.Log
