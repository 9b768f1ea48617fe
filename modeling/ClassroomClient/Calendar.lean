/-
# Points in time

A point in time is a number of milliseconds since the start of 1970 in UTC. Inside the years
that the calendar covers it is shown as a date with a time of day, and outside of them as the
plain number. The calendar is the Gregorian one, continued to all years.
-/

import ClassroomClient.Text.Decimal

namespace ClassroomClient.Calendar

/-- A date and a time of day. -/
structure Moment where
  year : Int
  month : Nat
  day : Nat
  hour : Nat
  minute : Nat
  second : Nat
  millisecond : Nat
  deriving DecidableEq, Repr, Inhabited

/-- The days from the start of March in the year zero to the start of 1970. -/
def epochDay : Int := 719468

/-- The days in a cycle of 400 years. -/
def cycleDays : Int := 146097

/-- The year, the month and the day of a day number, counted from the start of 1970. Years are
first counted from March on, so that a leap day is the last day of its year. -/
def dateOfDay (dayNumber : Int) : Int × Nat × Nat :=
  let shifted := dayNumber + epochDay
  let cycle := shifted.fdiv cycleDays
  let dayOfCycle := (shifted.fmod cycleDays).toNat
  let yearOfCycle :=
    (dayOfCycle - dayOfCycle / 1460 + dayOfCycle / 36524 - dayOfCycle / 146096) / 365
  let dayOfYear := dayOfCycle - (365 * yearOfCycle + yearOfCycle / 4 - yearOfCycle / 100)
  let monthFromMarch := (5 * dayOfYear + 2) / 153
  let day := dayOfYear - (153 * monthFromMarch + 2) / 5 + 1
  let month := if monthFromMarch < 10 then monthFromMarch + 3 else monthFromMarch - 9
  let year := cycle * 400 + yearOfCycle + (if month ≤ 2 then 1 else 0)
  (year, month, day)

/-- The day number of a date, counted from the start of 1970. -/
def dayOfDate (year : Int) (month day : Nat) : Int :=
  let shiftedYear := if month ≤ 2 then year - 1 else year
  let cycle := shiftedYear.fdiv 400
  let yearOfCycle := (shiftedYear.fmod 400).toNat
  let monthFromMarch := if 2 < month then month - 3 else month + 9
  let dayOfYear := (153 * monthFromMarch + 2) / 5 + day - 1
  let dayOfCycle := yearOfCycle * 365 + yearOfCycle / 4 - yearOfCycle / 100 + dayOfYear
  cycle * cycleDays + dayOfCycle - epochDay

/-- The milliseconds of a day. -/
def dayMillis : Int := 86400000

/-- The moment of a number of milliseconds since the start of 1970. -/
def momentOf (millis : Int) : Moment :=
  let (year, month, day) := dateOfDay (millis.fdiv dayMillis)
  let rest := (millis.fmod dayMillis).toNat
  { year, month, day
    hour := rest / 3600000
    minute := rest / 60000 % 60
    second := rest / 1000 % 60
    millisecond := rest % 1000 }

/-- The first year of the calendar. -/
def firstYear : Int := -262143

/-- The last year of the calendar. -/
def lastYear : Int := 262142

/-- Whether a point in time lies in the years of the calendar. -/
def covers (millis : Int) : Bool :=
  dayOfDate firstYear 1 1 * dayMillis ≤ millis &&
    millis < dayOfDate (lastYear + 1) 1 1 * dayMillis

/-- Two digits. -/
def two (n : Nat) : List Char := Text.padZeros 2 (Text.decimal n)

/-- A year has four digits; outside of these it has a sign and at least four digits. -/
def yearText (year : Int) : List Char :=
  let digits := Text.padZeros 4 (Text.decimal year.natAbs)
  if 0 ≤ year && year ≤ 9999 then digits
  else (if year < 0 then '-' else '+') :: digits

/-- A moment as date, time and offset. Milliseconds are shown if there are any. -/
def Moment.text (moment : Moment) : List Char :=
  yearText moment.year ++ '-' :: two moment.month ++ '-' :: two moment.day ++
    'T' :: two moment.hour ++ ':' :: two moment.minute ++ ':' :: two moment.second ++
    (if moment.millisecond = 0 then []
     else '.' :: Text.padZeros 3 (Text.decimal moment.millisecond)) ++
    ['+', '0', '0', ':', '0', '0']

/-- A point in time as it is shown. -/
def timestamp (millis : Int) : String :=
  String.ofList (if covers millis then (momentOf millis).text else Text.signedDecimal millis)

end ClassroomClient.Calendar
