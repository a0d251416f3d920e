/-! # Calendar

Seconds since the start of 1970 in UTC, as a date and a time of day of the proleptic Gregorian
calendar.
-/

namespace ListeningCharts

/-- A date with a time of day. -/
structure CivilTime where
  year : Int
  /-- From 1 to 12. -/
  month : Nat
  /-- From 1 to 31. -/
  day : Nat
  hour : Nat
  minute : Nat
  second : Nat
  /-- Days since Sunday. -/
  weekday : Nat
  deriving DecidableEq, Repr

namespace CivilTime

/-- The seconds that have a date: those of the years -262143 to 262142. -/
def isRepresentable (seconds : Int) : Bool :=
  decide (-8334601228800 ≤ seconds) && decide (seconds ≤ 8210266876799)

/-- The year, month and day that lie `days` days after the first of January 1970. Years are counted
from the first of March, so that the leap day is the last of a year; 400 such years, an era, have
146097 days. -/
def dateOfDays (days : Int) : Int × Nat × Nat :=
  let shifted := days + 719468
  let era := shifted / 146097
  let dayOfEra := (shifted % 146097).toNat
  let yearOfEra := (dayOfEra - dayOfEra / 1460 + dayOfEra / 36524 - dayOfEra / 146096) / 365
  let dayOfYear := dayOfEra - (365 * yearOfEra + yearOfEra / 4 - yearOfEra / 100)
  let march := (5 * dayOfYear + 2) / 153
  let day := dayOfYear - (153 * march + 2) / 5 + 1
  let month := if march < 10 then march + 3 else march - 9
  let year := Int.ofNat yearOfEra + era * 400 + (if month ≤ 2 then 1 else 0)
  (year, month, day)

/-- The date and time of a count of seconds. -/
def ofUnix (seconds : Int) : CivilTime :=
  let days := seconds / 86400
  let ofDay := (seconds % 86400).toNat
  let (year, month, day) := dateOfDays days
  { year, month, day
    hour := ofDay / 3600
    minute := ofDay % 3600 / 60
    second := ofDay % 60
    weekday := ((days + 4) % 7).toNat }

example : ofUnix 1037793040 = ⟨2002, 11, 20, 11, 50, 40, 3⟩ := by decide

example : ofUnix (-1) = ⟨1969, 12, 31, 23, 59, 59, 3⟩ := by decide

end CivilTime

end ListeningCharts
