import ChatFlow.Double.Arithmetic
import ChatFlow.Fault
import ChatFlow.Text.Basic

/-!
# Dates and moments

Days are those of the Gregorian calendar, extended to all years. A day is counted from 1 January 1970, and a
date is its year, month and day of the month. A moment is a reading of the local clock, which shows universal
time: the number of microseconds since the beginning of 1970. Its date, weekday and time of day are read off
that number.

* `Date.ofDay`, `Date.toDay`: the date of a day number, and the number of the day of a date.
* `weekdayOf`: the day of the week, which depends on the day number only.
* `Moment.day`, `Moment.minute`: the day and the minute that a moment lies in.
* `Moment.timestamp`: the seconds since 1970 as a double.
* `Moment.dateText`, `Moment.timeText`, `Moment.isoText`: how a moment is written.
-/

namespace ChatFlow

/-! ## Dates -/

/-- A date: a year, a month from 1 and a day of the month from 1. -/
structure Date where
  year : Int
  month : Nat
  day : Nat
deriving DecidableEq, Repr

/-- Has the year a 29 February? -/
def isLeapYear (year : Int) : Bool := year % 4 == 0 && (year % 100 != 0 || year % 400 == 0)

/-- The number of days of a month. -/
def daysInMonth (year : Int) (month : Nat) : Nat :=
  if month = 2 then (if isLeapYear year then 29 else 28)
  else if month = 4 ∨ month = 6 ∨ month = 9 ∨ month = 11 then 30
  else 31

/-- The day of the week of a day number, with 0 for Sunday. -/
def weekdayOf (day : Int) : Nat := ((day + 4) % 7).toNat

namespace Date

/-- The number of the day of a date. Years are counted from March here, so that a leap day is the
last of its year, and in periods of 400 years. -/
def toDay (d : Date) : Int :=
  let year := if d.month ≤ 2 then d.year - 1 else d.year
  let period := year / 400
  let yearOfPeriod := year % 400
  let monthFromMarch : Int := (d.month + 9) % 12
  let dayOfYear : Int := (153 * monthFromMarch + 2) / 5 + d.day - 1
  let dayOfPeriod := yearOfPeriod * 365 + yearOfPeriod / 4 - yearOfPeriod / 100 + dayOfYear
  period * 146097 + dayOfPeriod - 719468

/-- The date of a day number. -/
def ofDay (day : Int) : Date :=
  let shifted := day + 719468
  let period := shifted / 146097
  let dayOfPeriod := shifted % 146097
  let yearOfPeriod :=
    (dayOfPeriod - dayOfPeriod / 1460 + dayOfPeriod / 36524 - dayOfPeriod / 146096) / 365
  let dayOfYear := dayOfPeriod - (365 * yearOfPeriod + yearOfPeriod / 4 - yearOfPeriod / 100)
  let monthFromMarch := (5 * dayOfYear + 2) / 153
  let day := (dayOfYear - (153 * monthFromMarch + 2) / 5 + 1).toNat
  let month := if monthFromMarch < 10 then (monthFromMarch + 3).toNat else (monthFromMarch - 9).toNat
  ⟨period * 400 + yearOfPeriod + (if month ≤ 2 then 1 else 0), month, day⟩

/-- Is it a date of the calendar, in a year of four digits other than zero? -/
def isValid (d : Date) : Bool :=
  1 ≤ d.year && d.year ≤ 9999 && 1 ≤ d.month && d.month ≤ 12 && 1 ≤ d.day
    && d.day ≤ daysInMonth d.year d.month

end Date

/-! ## Moments -/

/-- A reading of the clock, in microseconds since the beginning of 1970. -/
structure Moment where
  micros : Int
deriving DecidableEq, Repr

namespace Moment

/-- The number of microseconds of a second. -/
def perSecond : Int := 1000000

/-- The number of microseconds of a minute. -/
def perMinute : Int := 60 * perSecond

/-- The number of microseconds of a day. -/
def perDay : Int := 1440 * perMinute

/-- The number of the day that the moment lies in. -/
def day (m : Moment) : Int := m.micros / perDay

/-- The number of the minute that the moment lies in. -/
def minute (m : Moment) : Int := m.micros / perMinute

/-- The number of the last full second. -/
def second (m : Moment) : Int := m.micros / perSecond

/-- The microseconds since the last full second. -/
def microsOfSecond (m : Moment) : Nat := (m.micros % perSecond).toNat

/-- The seconds since midnight. -/
def secondOfDay (m : Moment) : Nat := (m.second % 86400).toNat

/-- The hour of the day. -/
def hour (m : Moment) : Nat := m.secondOfDay / 3600

/-- The minute of the hour. -/
def minuteOfHour (m : Moment) : Nat := m.secondOfDay / 60 % 60

/-- The second of the minute. -/
def secondOfMinute (m : Moment) : Nat := m.secondOfDay % 60

/-- The date. -/
def date (m : Moment) : Date := .ofDay m.day

/-- The day of the week, 0 for Sunday. -/
def weekday (m : Moment) : Nat := weekdayOf m.day

/-- The moment at a date and a time of day. -/
def ofDate (d : Date) (secondOfDay : Nat) (micros : Nat) : Moment :=
  ⟨(d.toDay * 86400 + secondOfDay) * perSecond + micros⟩

/-- The first moment of the year 1, where the calendar begins. -/
def first : Moment := ofDate ⟨1, 1, 1⟩ 0 0

/-- The moment after the last one of the year 9999, where the calendar ends. -/
def past : Moment := ofDate ⟨10000, 1, 1⟩ 0 0

/-- Does the moment lie in the years 1 to 9999? -/
def inCalendar (m : Moment) : Bool := first.micros ≤ m.micros && m.micros < past.micros

/-- The seconds since 1970 as a double. Those of the first day of the calendar are not counted. -/
def timestamp (m : Moment) : Except Fault Double :=
  if m.micros < first.micros + perDay then .error .tooEarly
  else .ok ((Double.ofInt m.second).add (.ofRatio m.microsOfSecond 1000000))

/-! ## Texts -/

/-- Year, month and day with lines between them; the year is not padded. -/
def dateText (m : Moment) : Text :=
  Text.ofInt m.date.year ++ ("-" : Text) ++ Text.padded 2 m.date.month ++ "-" ++ Text.padded 2 m.date.day

/-- Hour and minute. -/
def clockText (m : Moment) : Text := Text.padded 2 m.hour ++ ":" ++ Text.padded 2 m.minuteOfHour

/-- Hour, minute and second. -/
def timeText (m : Moment) : Text := m.clockText ++ ":" ++ Text.padded 2 m.secondOfMinute

/-- Date and time of day with a blank between them. -/
def dateTimeText (m : Moment) : Text := m.dateText ++ " " ++ m.timeText

/-- The text of a moment in documents: the year in four digits, and microseconds if there are any. -/
def isoText (m : Moment) : Text :=
  Text.padded 4 m.date.year.toNat ++ "-" ++ Text.padded 2 m.date.month ++ "-"
    ++ Text.padded 2 m.date.day ++ "T" ++ m.timeText
    ++ (if m.microsOfSecond = 0 then [] else ("." : Text) ++ Text.padded 6 m.microsOfSecond)

end Moment

end ChatFlow
