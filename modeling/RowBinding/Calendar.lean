/-!
# Days of the calendar

Days of the proleptic Gregorian calendar, with the other ways to name one: by
its place in the year, in a week of the year or of the ISO year, and by its
number. The first day of the year 1, a Monday, has the number zero.

Weekdays count from zero, which is Monday.
-/

namespace RowBinding

/-- Whether a year has a leap day. -/
def isLeapYear (year : Int) : Bool :=
  year % 4 == 0 && (year % 100 != 0 || year % 400 == 0)

/-- Number of days of a month. -/
def daysInMonth (year : Int) (month : Nat) : Nat :=
  if month = 2 then if isLeapYear year then 29 else 28
  else if month = 4 || month = 6 || month = 9 || month = 11 then 30
  else 31

/-- The days that dates can name. -/
def IsDate (year : Int) (month day : Nat) : Prop :=
  (-262143 ≤ year ∧ year ≤ 262142) ∧ (1 ≤ month ∧ month ≤ 12) ∧
    (1 ≤ day ∧ day ≤ daysInMonth year month)

instance (year : Int) (month day : Nat) : Decidable (IsDate year month day) :=
  inferInstanceAs (Decidable (_ ∧ _))

/-- Number of days of a year before a month. -/
def daysBeforeMonth (year : Int) : Nat → Nat
  | 0 | 1 => 0
  | month + 2 => daysBeforeMonth year (month + 1) + daysInMonth year (month + 1)

/-- The number of the first day of a year. -/
def daysBeforeYear (year : Int) : Int :=
  365 * (year - 1) + (year - 1) / 4 - (year - 1) / 100 + (year - 1) / 400

/-- The weekday of the day with a number. -/
def weekdayOf (number : Int) : Nat :=
  (number % 7).toNat

/-- How many days a weekday comes behind another one in a week that starts with that. -/
def daysSince (first weekday : Nat) : Nat :=
  (weekday + 7 - first) % 7

/-- Number of weeks of an ISO year. -/
def isoWeeksInYear (year : Int) : Nat :=
  let first := weekdayOf (daysBeforeYear year)
  if first = 3 ∨ (first = 2 ∧ isLeapYear year) then 53 else 52

/-- The number of the Monday that an ISO year starts with, in the week of the fourth day of the
year. -/
def isoYearStart (year : Int) : Int :=
  let fourth := daysBeforeYear year + 3
  fourth - weekdayOf fourth

/-- A day of the calendar. -/
structure CalendarDay where
  year : Int
  month : Nat
  day : Nat
  isDate : IsDate year month day

namespace CalendarDay

/-- The place of a day in its year, from one. -/
def ordinal (day : CalendarDay) : Nat :=
  daysBeforeMonth day.year day.month + day.day

/-- The number of a day. -/
def number (day : CalendarDay) : Int :=
  daysBeforeYear day.year + day.ordinal - 1

/-- The weekday of a day. -/
def weekday (day : CalendarDay) : Nat :=
  weekdayOf day.number

/-- The quarter of the year that a day is in, from one. -/
def quarter (day : CalendarDay) : Nat :=
  (day.month - 1) / 3 + 1

/-- The week of the year that a day is in, if weeks start with a weekday; days before the
first such weekday are in week zero. -/
def weekFrom (first : Nat) (day : CalendarDay) : Nat :=
  (day.ordinal + 6 - daysSince first day.weekday) / 7

/-- The ISO year that a day is in, and the week of that year. -/
def isoWeek (day : CalendarDay) : Int × Nat :=
  let week := (day.ordinal + 9 - day.weekday) / 7
  if week = 0 then (day.year - 1, isoWeeksInYear (day.year - 1))
  else if isoWeeksInYear day.year < week then (day.year + 1, 1)
  else (day.year, week)

/-- The day with a year, a month and a day of the month. -/
def ofParts? (year : Int) (month day : Nat) : Option CalendarDay :=
  if isDate : IsDate year month day then some ⟨year, month, day, isDate⟩ else none

/-- The day at a place in a year. -/
def ofOrdinal? (year : Int) (ordinal : Nat) : Option CalendarDay :=
  let month := (List.range' 1 12).countP (daysBeforeMonth year · < ordinal)
  ofParts? year month (ordinal - daysBeforeMonth year month)

/-- The day with a number. -/
def ofNumber? (number : Int) : Option CalendarDay :=
  -- A year has 146097 / 400 days in the mean, so the guess is at most a year off.
  let guess := number * 400 / 146097 + 1
  let year :=
    if number < daysBeforeYear guess then guess - 1
    else if daysBeforeYear (guess + 1) ≤ number then guess + 1
    else guess
  ofOrdinal? year (number - daysBeforeYear year + 1).toNat

/-- The day on a weekday of a week of a year, if weeks start with a given weekday. -/
def ofWeek? (first : Nat) (year : Int) (week weekday : Nat) : Option CalendarDay :=
  let firstStart : Int := 1 + daysSince (weekdayOf (daysBeforeYear year)) first
  ofOrdinal? year (firstStart + (week - 1) * 7 + daysSince first weekday).toNat

/-- The day on a weekday of a week of an ISO year. -/
def ofIsoWeek? (year : Int) (week weekday : Nat) : Option CalendarDay :=
  if 1 ≤ week && week ≤ isoWeeksInYear year then
    ofNumber? (isoYearStart year + (week - 1) * 7 + weekday)
  else
    none

end CalendarDay
end RowBinding
