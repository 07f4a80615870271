namespace SlotTalk

/-!
# Dates

A date is an instant of universal time, given by the seconds since the start of 1970 and the
nanoseconds that have passed in the current one.

* `Date.civil` — year, month and day in the Gregorian calendar, also before its introduction.
* `Date.text` — the instant as RFC 3339 writes it, with as many groups of three decimals as its
  nanoseconds need.
-/

/-- An instant of universal time. -/
structure Date where
  seconds : Int
  nanoseconds : Nat
  deriving DecidableEq, Repr, Inhabited

/-- A day of the Gregorian calendar. -/
structure CivilDay where
  year : Int
  month : Nat
  day : Nat
  deriving DecidableEq, Repr

namespace Date

/-- Days in four hundred years, after which the calendar repeats. -/
def daysPerEra : Nat := 146097

/-- Days from the first of March of the year 0 to the start of 1970. -/
def epochDays : Int := 719468

/-- The day that lies `days` days after the start of 1970.  Years are counted from March, so that a
    leap day is the last of its year. -/
def civilOfDays (days : Int) : CivilDay :=
  let shifted := days + epochDays
  let era := Int.fdiv shifted daysPerEra
  let dayOfEra := (Int.fmod shifted daysPerEra).toNat
  let yearOfEra := (dayOfEra - dayOfEra / 1460 + dayOfEra / 36524 - dayOfEra / 146096) / 365
  let dayOfYear := dayOfEra - (365 * yearOfEra + yearOfEra / 4 - yearOfEra / 100)
  let monthFromMarch := (5 * dayOfYear + 2) / 153
  let month := if monthFromMarch < 10 then monthFromMarch + 3 else monthFromMarch - 9
  { year := yearOfEra + era * 400 + (if month ≤ 2 then 1 else 0)
    month := month
    day := dayOfYear - (153 * monthFromMarch + 2) / 5 + 1 }

/-- The day on which the instant falls. -/
def civil (date : Date) : CivilDay := civilOfDays (Int.fdiv date.seconds 86400)

/-- The year in which the instant falls. -/
def year (date : Date) : Int := date.civil.year

/-- Whole microseconds since the start of 1970, rounded down. -/
def microseconds (date : Date) : Int := date.seconds * 1000000 + date.nanoseconds / 1000

/-- Decimal digits, filled up with zeros on the left. -/
def padded (width n : Nat) : String :=
  let digits := toString n
  "".pushn '0' (width - digits.length) ++ digits

/-- A year has four digits; outside of 0 to 9999 it also has a sign. -/
def yearText (year : Int) : String :=
  if 0 ≤ year ∧ year ≤ 9999 then padded 4 year.toNat
  else (if year < 0 then "-" else "+") ++ padded 4 year.natAbs

/-- The decimals of a second: none, three, six or nine of them. -/
def fractionText (nanoseconds : Nat) : String :=
  if nanoseconds = 0 then ""
  else if nanoseconds % 1000000 = 0 then "." ++ padded 3 (nanoseconds / 1000000)
  else if nanoseconds % 1000 = 0 then "." ++ padded 6 (nanoseconds / 1000)
  else "." ++ padded 9 nanoseconds

/-- The instant as RFC 3339 writes it. -/
def text (date : Date) : String :=
  let day := date.civil
  let second := (Int.fmod date.seconds 86400).toNat
  let dayText := "-".intercalate [yearText day.year, padded 2 day.month, padded 2 day.day]
  let timeText := ":".intercalate
    [padded 2 (second / 3600), padded 2 (second / 60 % 60), padded 2 (second % 60)]
  dayText ++ "T" ++ timeText ++ fractionText date.nanoseconds ++ "+00:00"

end Date

end SlotTalk
