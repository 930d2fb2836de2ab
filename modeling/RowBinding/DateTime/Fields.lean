import RowBinding.DateTime

/-!
# Fields of dates and times

The fields that a text gives for a point in time. A field that is given twice
has to have the same value both times, and the fields name a point in time if
they suffice for one and if it agrees with all of them.

A date can be given by month and day, by its place in the year, or by a weekday
of a week. A time of day can leave out the second. A timestamp stands for both
where they are not complete, and fields with no complete time of day mean the
midnight of their date.
-/

namespace RowBinding

/-- The parts that a year is given by. -/
structure YearFields where
  year : Option Int := none
  century : Option Nat := none
  yearOfCentury : Option Nat := none
  deriving DecidableEq

/-- Why fields name no point in time. -/
inductive FieldsFault
  /-- There are not enough of them. -/
  | incomplete
  /-- No point in time agrees with all of them. -/
  | contradictory
  deriving DecidableEq

namespace YearFields

/-- Whether a year agrees with every part; years before the year 0 have no century. -/
def agrees (fields : YearFields) (year : Int) : Bool :=
  fields.year.all (· = year) &&
    fields.century.all (fun century => 0 ≤ year && (century : Int) = year / 100) &&
    fields.yearOfCentury.all (fun rest => 0 ≤ year && (rest : Int) = year % 100)

/--
The year that the parts give, or nothing where there are none.

A year of a century alone lies between 1970 and 2069.
-/
def year? (fields : YearFields) : Except FieldsFault (Option Int) :=
  match fields.year, fields.century, fields.yearOfCentury with
  | none, none, none => .ok none
  | some year, _, _ => if fields.agrees year then .ok year else .error .contradictory
  | none, some century, some rest => .ok (some (century * 100 + rest))
  | none, none, some rest => .ok (some (rest + if rest < 70 then 2000 else 1900))
  | none, some _, none => .error .incomplete

end YearFields

/-- The fields of a point in time that have been read so far. -/
structure TimeFields where
  year : YearFields := {}
  isoYear : YearFields := {}
  quarter : Option Nat := none
  month : Option Nat := none
  day : Option Nat := none
  ordinal : Option Nat := none
  /-- The week of the year, if weeks start with a Sunday. -/
  weekFromSunday : Option Nat := none
  /-- The week of the year, if weeks start with a Monday. -/
  weekFromMonday : Option Nat := none
  isoWeek : Option Nat := none
  weekday : Option Nat := none
  /-- Zero before noon, and one from noon on. -/
  halfDay : Option Nat := none
  hourOfHalf : Option Nat := none
  minute : Option Nat := none
  second : Option Nat := none
  nanosecond : Option Nat := none
  timestamp : Option Nat := none
  /-- The offset of a time zone in seconds, which nothing is computed from. -/
  offset : Option Int := none
  deriving DecidableEq

namespace TimeFields

/-- A field after reading a value for it: unread before, or the same again. -/
def agree? {α : Type} [DecidableEq α] (field : Option α) (value : α) :
    Option (Option α) :=
  match field with
  | none => some (some value)
  | some earlier => if earlier = value then some (some value) else none

/-- Read a year into its field. -/
def giveYear? (fields : TimeFields) (value : Int) : Option TimeFields := do
  let field ← agree? fields.year.year value
  return { fields with year := { fields.year with year := field } }

/-- Read an hour of the day into its two fields. -/
def giveHour? (fields : TimeFields) (value : Nat) : Option TimeFields := do
  let half ← agree? fields.halfDay (value / 12)
  let hour ← agree? fields.hourOfHalf (value % 12)
  return { fields with halfDay := half, hourOfHalf := hour }

/-- Read a fraction of a second into its field. -/
def giveNanosecond? (fields : TimeFields) (value : Nat) : Option TimeFields := do
  let field ← agree? fields.nanosecond value
  return { fields with nanosecond := field }

/-- Whether a day agrees with every field of a date. -/
def agreesOn (fields : TimeFields) (day : CalendarDay) : Bool :=
  fields.year.agrees day.year && fields.isoYear.agrees day.isoWeek.1 &&
    fields.quarter.all (· = day.quarter) && fields.month.all (· = day.month) &&
    fields.day.all (· = day.day) && fields.ordinal.all (· = day.ordinal) &&
    fields.weekFromSunday.all (· = day.weekFrom 6) &&
    fields.weekFromMonday.all (· = day.weekFrom 0) &&
    fields.isoWeek.all (· = day.isoWeek.2) && fields.weekday.all (· = day.weekday)

/-- A day, or the fault of fields that name none. -/
def orContradictory : Option CalendarDay → Except FieldsFault CalendarDay
  | some day => .ok day
  | none => .error .contradictory

/-- The day of a known year that the first complete set of fields names. -/
def inYear (fields : TimeFields) (year : Int) : Except FieldsFault CalendarDay :=
  match fields.month, fields.day, fields.ordinal, fields.weekFromSunday, fields.weekFromMonday,
    fields.weekday with
  | some month, some day, _, _, _, _ => orContradictory (CalendarDay.ofParts? year month day)
  | _, _, some ordinal, _, _, _ => orContradictory (CalendarDay.ofOrdinal? year ordinal)
  | _, _, _, some week, _, some weekday =>
      orContradictory (CalendarDay.ofWeek? 6 year week weekday)
  | _, _, _, _, some week, some weekday =>
      orContradictory (CalendarDay.ofWeek? 0 year week weekday)
  | _, _, _, _, _, _ => .error .incomplete

/-- The day of a known ISO year that a week and a weekday name. -/
def inIsoYear (fields : TimeFields) (year : Int) : Except FieldsFault CalendarDay :=
  match fields.isoWeek, fields.weekday with
  | some week, some weekday => orContradictory (CalendarDay.ofIsoWeek? year week weekday)
  | _, _ => .error .incomplete

/-- The day that is named in the year, or in the ISO year where the other fields do not suffice. -/
def candidate (fields : TimeFields) (year? isoYear? : Option Int) :
    Except FieldsFault CalendarDay :=
  match year?.elim (.error .incomplete) fields.inYear with
  | .error .incomplete => isoYear?.elim (.error .incomplete) fields.inIsoYear
  | outcome => outcome

/-- The day of the fields. -/
def date (fields : TimeFields) : Except FieldsFault CalendarDay := do
  let day ← fields.candidate (← fields.year.year?) (← fields.isoYear.year?)
  if fields.agreesOn day then return day else throw .contradictory

/-- The time of day of the fields on a day, if it is complete. -/
def timeOn? (fields : TimeFields) (day : CalendarDay) : Option DateTime :=
  match fields.halfDay, fields.hourOfHalf, fields.minute, fields.second, fields.nanosecond with
  | some half, some hour, some minute, some second, fraction =>
      -- The sixty-first second of a minute is the leap second behind its last one.
      if second = 60 then
        DateTime.ofParts? day (12 * half + hour) minute 59 (1000000000 + fraction.getD 0)
      else
        DateTime.ofParts? day (12 * half + hour) minute second (fraction.getD 0)
  | some half, some hour, some minute, none, none =>
      DateTime.ofParts? day (12 * half + hour) minute 0 0
  | _, _, _, _, _ => none

/-- Whether a timestamp is that of a point in time; a leap second has two of them. -/
def isTimestampOf (moment : DateTime) (timestamp : Nat) : Bool :=
  timestamp = moment.timestamp ||
    (1000000000 ≤ moment.nanosecond && timestamp = moment.timestamp + 1)

/-- The fields with those of a point in time that a timestamp leads to. -/
def filledBy? (fields : TimeFields) (moment : DateTime) : Option TimeFields := do
  let fields ← fields.giveYear? moment.year
  let ordinal ← agree? fields.ordinal moment.date.ordinal
  let fields ← { fields with ordinal := ordinal }.giveHour? moment.hour
  let minute ← agree? fields.minute moment.minute
  return { fields with minute := minute }

/-- The day and the time of day of the fields, where both are complete. -/
def dayAndTime? (fields : TimeFields) : Option DateTime :=
  match fields.date with
  | .ok day => fields.timeOn? day
  | .error _ => none

/-- The point in time of a timestamp, with the other fields. -/
def ofTimestamp? (fields : TimeFields) (timestamp : Nat) : Option DateTime := do
  let moment ← DateTime.ofTimestamp? timestamp
  let filled ←
    if fields.second = some 60 then
      -- Counted without leap seconds, it is the last second of its minute or the next one.
      if moment.second = 59 then fields.filledBy? moment
      else if moment.second = 0 then do
        fields.filledBy? (← DateTime.ofTimestamp? ((timestamp : Int) - 1))
      else none
    else do
      let second ← agree? fields.second moment.second
      { fields with second := second }.filledBy? moment
  filled.dayAndTime?

/-- The day and the time of day of the fields, where both are complete or a timestamp is. -/
def complete? (fields : TimeFields) : Option DateTime :=
  let ofTimestamp? := fields.timestamp.bind fields.ofTimestamp?
  match fields.date with
  | .ok day =>
      match fields.timeOn? day with
      | some moment => if fields.timestamp.all (isTimestampOf moment) then some moment else none
      | none => ofTimestamp?
  | .error .incomplete => ofTimestamp?
  | .error .contradictory => none

/-- The point in time of the fields: a date with a time of day or midnight. -/
def resolve? (fields : TimeFields) : Option DateTime :=
  match fields.complete?, fields.date with
  | some moment, _ => some moment
  | none, .ok day => some (.midnight day)
  | none, .error _ => none

end TimeFields
end RowBinding
