import RowBinding.Calendar
import RowBinding.Text.Digits

/-!
# Points in time

A point in time is a day of the proleptic Gregorian calendar with a time of
day, without a time zone. A leap second can stand behind every second. It is
that second with a nanosecond that counts on, from one second to below two.

The parts are compared from the year down to the nanosecond, so a leap second
comes behind its second and before the next one.
-/

namespace RowBinding

/-- The times of day, with a leap second behind each second. -/
def IsTime (hour minute second nanosecond : Nat) : Prop :=
  hour < 24 ∧ minute < 60 ∧ second < 60 ∧ nanosecond < 2000000000

instance (hour minute second nanosecond : Nat) :
    Decidable (IsTime hour minute second nanosecond) :=
  inferInstanceAs (Decidable (_ ∧ _))

/-- A day with a time of day. -/
structure DateTime where
  year : Int
  month : Nat
  day : Nat
  hour : Nat
  minute : Nat
  second : Nat
  nanosecond : Nat
  isDate : IsDate year month day
  isTime : IsTime hour minute second nanosecond
  deriving DecidableEq

namespace DateTime

/-- The first moment of the year 1970. -/
def epoch : DateTime :=
  ⟨1970, 1, 1, 0, 0, 0, 0, by decide, by decide⟩

/-- The first moment of a day. -/
def midnight (day : CalendarDay) : DateTime :=
  ⟨day.year, day.month, day.day, 0, 0, 0, 0, day.isDate, by decide⟩

/-- A time of day on a day, if there is such a time. -/
def ofParts? (day : CalendarDay) (hour minute second nanosecond : Nat) : Option DateTime :=
  if isTime : IsTime hour minute second nanosecond then
    some ⟨day.year, day.month, day.day, hour, minute, second, nanosecond, day.isDate, isTime⟩
  else
    none

/-- The day of a point in time. -/
def date (moment : DateTime) : CalendarDay :=
  ⟨moment.year, moment.month, moment.day, moment.isDate⟩

/-- Seconds since the first moment of the year 1970, without leap seconds. -/
def timestamp (moment : DateTime) : Int :=
  (moment.date.number - epoch.date.number) * 86400 +
    (moment.hour * 3600 + moment.minute * 60 + moment.second)

/-- The point in time a number of seconds behind the first moment of the year 1970. -/
def ofTimestamp? (seconds : Int) : Option DateTime := do
  let day ← CalendarDay.ofNumber? (epoch.date.number + seconds / 86400)
  let clock := (seconds % 86400).toNat
  ofParts? day (clock / 3600) (clock / 60 % 60) (clock % 60) 0

/-- Earlier or later, by the first part that differs. -/
def order (first second : DateTime) : Ordering :=
  (compare first.year second.year).then <|
    (compare first.month second.month).then <|
      (compare first.day second.day).then <|
        (compare first.hour second.hour).then <|
          (compare first.minute second.minute).then <|
            (compare first.second second.second).then
              (compare first.nanosecond second.nanosecond)

/-- A year in four digits, or with a sign and at least four digits. -/
def yearText (year : Int) : String :=
  if 0 ≤ year && year ≤ 9999 then Text.ofNatPadded 4 year.natAbs
  else (if year < 0 then "-" else "+") ++ Text.ofNatPadded 4 year.natAbs

/-- The fraction of a second in 3, 6 or 9 digits, or nothing if it is zero. -/
def fractionText (nanosecond : Nat) : String :=
  if nanosecond = 0 then ""
  else if nanosecond % 1000000 = 0 then "." ++ Text.ofNatPadded 3 (nanosecond / 1000000)
  else if nanosecond % 1000 = 0 then "." ++ Text.ofNatPadded 6 (nanosecond / 1000)
  else "." ++ Text.ofNatPadded 9 nanosecond

/-- The second that texts show: a leap second is shown as the number behind its second. -/
def shownSecond (moment : DateTime) : Nat :=
  moment.second + moment.nanosecond / 1000000000

/-- The fraction that texts show, in nanoseconds. -/
def shownFraction (moment : DateTime) : Nat :=
  moment.nanosecond % 1000000000

/-- Date and time of day with a separator between them. -/
def textWith (separator : String) (moment : DateTime) : String :=
  yearText moment.year ++ "-" ++ Text.ofNatPadded 2 moment.month ++ "-" ++
    Text.ofNatPadded 2 moment.day ++ separator ++ Text.ofNatPadded 2 moment.hour ++
    ":" ++ Text.ofNatPadded 2 moment.minute ++ ":" ++
    Text.ofNatPadded 2 moment.shownSecond ++ fractionText moment.shownFraction

/-- Text with a blank between date and time of day. -/
def toText (moment : DateTime) : String :=
  moment.textWith " "

/-- Text with the letter T between date and time of day. -/
def toMarkedText (moment : DateTime) : String :=
  moment.textWith "T"

end DateTime
end RowBinding
