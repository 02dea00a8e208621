import Xygo.Computation.FixedWidth
import Xygo.Model.Js

/-!
# The text of a date

The SQL stores keep and compare the text that `toISOString` gives, not the milliseconds.
`isoText` renders a time as the language specifies it: year, month and day of the
proleptic Gregorian calendar, and a sign and six digits for a year outside 0 to 9999.
-/

set_option autoImplicit false

namespace Xygo.Model

open Xygo.Computation

/-- The milliseconds of a day. -/
def msPerDay : Int := 86400000

/-- The number of the day of a time, from the epoch. -/
def day (t : Int) : Int := t / msPerDay

/-- The number of the first day of a year. -/
def dayFromYear (y : Int) : Int :=
  365 * (y - 1970) + (y - 1969) / 4 - (y - 1901) / 100 + (y - 1601) / 400

/-- The year of a time: the one its mean length points at, or a neighbour of it. -/
def yearFromTime (t : Int) : Int :=
  let guess := 1970 + day t * 400 / 146097
  if dayFromYear (guess + 1) ≤ day t then guess + 1
  else if day t < dayFromYear guess then guess - 1
  else guess

/-- One in a leap year, else zero. -/
def inLeapYear (y : Int) : Int := dayFromYear (y + 1) - dayFromYear y - 365

/-- The day of a time in its year, from zero. -/
def dayWithinYear (t : Int) : Int := day t - dayFromYear (yearFromTime t)

/-- The first day of each month of a year that is not a leap year, from zero. -/
def monthStarts : List Int := [0, 31, 59, 90, 120, 151, 181, 212, 243, 273, 304, 334]

/-- The first day of a month in its year, `leap` being one in a leap year; months count
from zero, and the month after the last begins with the next year. -/
def monthStart (leap m : Int) : Int :=
  monthStarts.getD m.toNat 365 + if 2 ≤ m then leap else 0

/-- The last of the months up to `m` that has begun on a day of the year. -/
def lastMonthBegun (leap d : Int) : Nat → Nat
  | 0 => 0
  | m + 1 => if monthStart leap (m + 1) ≤ d then m + 1 else lastMonthBegun leap d m

/-- The month of a time, from zero. -/
def monthFromTime (t : Int) : Nat :=
  lastMonthBegun (inLeapYear (yearFromTime t)) (dayWithinYear t) 11

/-- The day of a time in its month, from one. -/
def dateFromTime (t : Int) : Int :=
  dayWithinYear t - monthStart (inLeapYear (yearFromTime t)) (monthFromTime t) + 1

/-- The hour of a time. -/
def hourFromTime (t : Int) : Int := t / 3600000 % 24

/-- The minute of a time. -/
def minFromTime (t : Int) : Int := t / 60000 % 60

/-- The second of a time. -/
def secFromTime (t : Int) : Int := t / 1000 % 60

/-- The millisecond of a time. -/
def msFromTime (t : Int) : Int := t % 1000

/-- The year of a date text. -/
def yearText (y : Int) : List Char :=
  if 0 ≤ y ∧ y ≤ 9999 then digits 4 y.toNat
  else (if y < 0 then '-' else '+') :: digits 6 y.natAbs

/-- The text `toISOString` gives for a time. -/
def isoText (t : Int) : String :=
  String.ofList (yearText (yearFromTime t) ++
    (['-'] ++ (digits 2 (monthFromTime t + 1) ++
    (['-'] ++ (digits 2 (dateFromTime t).toNat ++
    (['T'] ++ (digits 2 (hourFromTime t).toNat ++
    ([':'] ++ (digits 2 (minFromTime t).toNat ++
    ([':'] ++ (digits 2 (secFromTime t).toNat ++
    (['.'] ++ (digits 3 (msFromTime t).toNat ++ ['Z'])))))))))))))

example : isoText 1000 = "1970-01-01T00:00:01.000Z" := by decide

/-- A time whose text has a year of four digits. -/
def fourDigitYear (t : Int) : Bool := 0 ≤ yearFromTime t && yearFromTime t ≤ 9999

/-- How the SQL stores compare two times: as their texts. -/
def textLe (a b : Int) : Bool := isoText a ≤ isoText b

end Xygo.Model
