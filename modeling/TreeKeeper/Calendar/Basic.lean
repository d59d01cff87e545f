import TreeKeeper.Text.Basic

/-
  The proleptic Gregorian calendar: from seconds since the
  epoch to the date and the time of day, without leap
  seconds and in universal time.  The year zero is the year
  before the year one.

  Key definitions include:
    * `Calendar.Moment`
    * `Calendar.dateOfDay`
    * `Calendar.dayOfDate`
    * `Calendar.momentOf?`
    * `Calendar.yearText`
-/

------------------------------------------------------------
-- Days And Dates
------------------------------------------------------------

namespace TreeKeeper

namespace Calendar

/-
  The year, month and day of the month of a day that is
  counted from the epoch.  Years are counted from March, so
  that a leap day ends its year, in eras of 400 years.
-/
def dateOfDay (day : Int) : Int × Nat × Nat :=
  let shifted := day + 719468
  let era := shifted.fdiv 146097
  let dayOfEra := (shifted.fmod 146097).toNat
  let yearOfEra :=
    (dayOfEra - dayOfEra / 1460 + dayOfEra / 36524 -
      dayOfEra / 146096) / 365
  let dayOfYear :=
    dayOfEra -
      (365 * yearOfEra + yearOfEra / 4 - yearOfEra / 100)
  let shiftedMonth := (5 * dayOfYear + 2) / 153
  let dayOfMonth :=
    dayOfYear - (153 * shiftedMonth + 2) / 5 + 1
  let month :=
    if shiftedMonth < 10 then shiftedMonth + 3
    else shiftedMonth - 9
  let year := (yearOfEra : Int) + era * 400
  (if month ≤ 2 then year + 1 else year, month, dayOfMonth)

/- The day of a date, counted from the epoch. -/
def dayOfDate
    (year : Int)
    (month dayOfMonth : Nat) : Int :=
  let year := if month ≤ 2 then year - 1 else year
  let era := year.fdiv 400
  let yearOfEra := year - era * 400
  let shiftedMonth : Int :=
    if 2 < month then (month : Int) - 3
    else (month : Int) + 9
  let dayOfYear :=
    (153 * shiftedMonth + 2).fdiv 5 +
      (dayOfMonth : Int) - 1
  let dayOfEra :=
    yearOfEra * 365 + yearOfEra.fdiv 4 -
      yearOfEra.fdiv 100 + dayOfYear
  era * 146097 + dayOfEra - 719468

/- Whether a year has a leap day. -/
def isLeapYear (year : Int) : Bool :=
  year.fmod 4 == 0 &&
    (year.fmod 100 != 0 || year.fmod 400 == 0)

/- The number of days of a month. -/
def daysInMonth (year : Int) (month : Nat) : Nat :=
  match month with
  | 2 => if isLeapYear year then 29 else 28
  | 4 => 30
  | 6 => 30
  | 9 => 30
  | 11 => 30
  | _ => 31

------------------------------------------------------------
-- Moments
------------------------------------------------------------

/- A date, its day of the week, and a time of day. -/
structure Moment where
  year : Int
  month : Nat
  day : Nat
  weekday : Nat
  hour : Nat
  minute : Nat
  second : Nat
deriving DecidableEq

/- The first second that the calendar covers. -/
def firstSecond : Int :=
  -8334601228800

/- The last second that the calendar covers. -/
def lastSecond : Int :=
  8210266876799

/-
  The moment at a number of seconds since the epoch, within
  the years that the calendar covers.  The epoch was a
  Thursday.
-/
def momentOf? (seconds : Int) : Option Moment :=
  if seconds < firstSecond ∨ lastSecond < seconds then none
  else
    let day := seconds.fdiv 86400
    let rest := (seconds.fmod 86400).toNat
    let (year, month, dayOfMonth) := dateOfDay day
    some {
      year := year
      month := month
      day := dayOfMonth
      weekday := ((day + 4).fmod 7).toNat
      hour := rest / 3600
      minute := rest / 60 % 60
      second := rest % 60 }

------------------------------------------------------------
-- Texts
------------------------------------------------------------

/- The short names of the months. -/
def monthNames : List String :=
  ["Jan", "Feb", "Mar", "Apr", "May", "Jun", "Jul", "Aug",
    "Sep", "Oct", "Nov", "Dec"]

/- The short names of the days of the week. -/
def weekdayNames : List String :=
  ["Sun", "Mon", "Tue", "Wed", "Thu", "Fri", "Sat"]

/- The short name of the month of a moment. -/
def Moment.monthName (m : Moment) : String :=
  (monthNames[m.month - 1]?).getD ""

/- The short name of the day of the week of a moment. -/
def Moment.weekdayName (m : Moment) : String :=
  (weekdayNames[m.weekday]?).getD ""

/-
  A year with at least four digits.  Years outside of 0 to
  9999 carry their sign.
-/
def yearText (year : Int) : String :=
  let digits := Text.padZeros 4 (toString year.natAbs)
  if year < 0 then "-" ++ digits
  else if 9999 < year then "+" ++ digits
  else digits

/- A number of one or two digits, with a zero in front. -/
def twoDigits (n : Nat) : String :=
  Text.padZeros 2 (toString n)

/- The day of the month, with a blank in front. -/
def Moment.dayText (m : Moment) : String :=
  Text.padLeft 2 (toString m.day)

/- The hour and the minute. -/
def Moment.clock (m : Moment) : String :=
  twoDigits m.hour ++ ":" ++ twoDigits m.minute

/- The hour, the minute and the second. -/
def Moment.fullClock (m : Moment) : String :=
  m.clock ++ ":" ++ twoDigits m.second

end Calendar

end TreeKeeper
