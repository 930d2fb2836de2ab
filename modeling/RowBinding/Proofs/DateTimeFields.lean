import RowBinding.DateTime.Fields
import RowBinding.Proofs.CalendarDays
import RowBinding.Proofs.Outcome

/-!
# Days and times that fields name

Fields that suffice for a day of their year name the one day of it that agrees
with all fields of a date, and no day if there is none. So it does not matter
which of them name the day where others could name it too.

A timestamp that stands alone names the point in time that it is counted to,
and every whole second is named by its timestamp.
-/

namespace RowBinding

/-- A day of a year is a day of that year. -/
theorem CalendarDay.year_eq_of_ofParts?
    {day : CalendarDay}
    {year : Int}
    {month number : Nat}
    (isDay : ofParts? year month number = some day) :
    day.year = year := by
  unfold ofParts? at isDay
  split_ifs at isDay
  cases isDay
  rfl

theorem YearFields.year?_of_year (year : Int) :
    YearFields.year? { year := some year } = .ok (some year) := by
  simp [year?, agrees]

namespace DateTime

theorem ofParts?_eq_some
    (moment : DateTime)
    {second nanosecond : Nat}
    (isSecond : moment.second = second)
    (isNanosecond : moment.nanosecond = nanosecond) :
    ofParts? moment.date moment.hour moment.minute second nanosecond = some moment := by
  subst isSecond isNanosecond
  exact dif_pos moment.isTime

theorem nanosecond_of_ofParts?
    {day : CalendarDay}
    {hour minute second nanosecond : Nat}
    {moment : DateTime}
    (isMoment : ofParts? day hour minute second nanosecond = some moment) :
    moment.nanosecond = nanosecond := by
  unfold ofParts? at isMoment
  split_ifs at isMoment
  cases isMoment
  rfl

/-- Timestamps count whole seconds. -/
theorem nanosecond_of_ofTimestamp?
    {seconds : Int}
    {moment : DateTime}
    (isMoment : ofTimestamp? seconds = some moment) :
    moment.nanosecond = 0 := by
  obtain ⟨day, -, isMoment⟩ := Option.bind_eq_some_iff.mp isMoment
  exact nanosecond_of_ofParts? isMoment

/-- A whole second is found by its timestamp. -/
theorem ofTimestamp?_timestamp
    {moment : DateTime}
    (isWhole : moment.nanosecond = 0) :
    ofTimestamp? moment.timestamp = some moment := by
  obtain ⟨isHour, isMinute, isSecond, -⟩ := moment.isTime
  have isDay : epoch.date.number + moment.timestamp / 86400 = moment.date.number := by
    unfold timestamp
    omega
  have isClock : (moment.timestamp % 86400).toNat =
      moment.hour * 3600 + moment.minute * 60 + moment.second := by
    unfold timestamp
    omega
  have isHourOfClock :
      (moment.hour * 3600 + moment.minute * 60 + moment.second) / 3600 = moment.hour := by
    omega
  have isMinuteOfClock :
      (moment.hour * 3600 + moment.minute * 60 + moment.second) / 60 % 60 = moment.minute := by
    omega
  rw [ofTimestamp?, isDay, CalendarDay.ofNumber?_number, isClock]
  change ofParts? moment.date ((moment.hour * 3600 + moment.minute * 60 + moment.second) / 3600)
    ((moment.hour * 3600 + moment.minute * 60 + moment.second) / 60 % 60) _ 0 = _
  rw [isHourOfClock, isMinuteOfClock]
  exact moment.ofParts?_eq_some (by omega) isWhole

end DateTime

namespace TimeFields

variable {fields : TimeFields} {day : CalendarDay} {year : Int} {isoYear? : Option Int}

/-- Whether the fields suffice to name a day of a known year. -/
def SufficesInYear (fields : TimeFields) : Prop :=
  (fields.month.isSome ∧ fields.day.isSome) ∨ fields.ordinal.isSome ∨
    ((fields.weekFromSunday.isSome ∨ fields.weekFromMonday.isSome) ∧ fields.weekday.isSome)

theorem orContradictory_eq_ok_iff {day? : Option CalendarDay} :
    orContradictory day? = .ok day ↔ day? = some day := by
  cases day? <;> simp [orContradictory]

theorem orContradictory_ne_incomplete (day? : Option CalendarDay) :
    orContradictory day? ≠ .error .incomplete := by
  cases day? <;> simp [orContradictory]

theorem inYear_eq_incomplete_iff :
    fields.inYear year = .error .incomplete ↔ ¬ fields.SufficesInYear := by
  unfold inYear
  split
  case h_5 noMonth noOrdinal noSundayWeek noMondayWeek =>
    refine iff_of_true rfl fun suffice => ?_
    simp only [SufficesInYear, Option.isSome_iff_exists] at suffice
    obtain ⟨⟨_, hasMonth⟩, _, hasDay⟩ | ⟨_, hasOrdinal⟩ |
      ⟨⟨_, hasWeek⟩ | ⟨_, hasWeek⟩, _, hasWeekday⟩ := suffice
    · exact noMonth _ _ hasMonth hasDay
    · exact noOrdinal _ hasOrdinal
    · exact noSundayWeek _ _ hasWeek hasWeekday
    · exact noMondayWeek _ _ hasWeek hasWeekday
  all_goals
    refine iff_of_false (orContradictory_ne_incomplete _) (not_not_intro ?_)
    simp_all [SufficesInYear]

/-- The fields of a day that agrees with them. -/
theorem eq_of_agreesOn (agrees : fields.agreesOn day = true) :
    (∀ month, fields.month = some month → month = day.month) ∧
      (∀ number, fields.day = some number → number = day.day) ∧
        (∀ ordinal, fields.ordinal = some ordinal → ordinal = day.ordinal) ∧
          (∀ week, fields.weekFromSunday = some week → week = day.weekFrom 6) ∧
            (∀ week, fields.weekFromMonday = some week → week = day.weekFrom 0) ∧
              (∀ week, fields.isoWeek = some week → week = day.isoWeek.2) ∧
                ∀ weekday, fields.weekday = some weekday → weekday = day.weekday := by
  simp only [agreesOn, Bool.and_eq_true, Option.all_eq_true, decide_eq_true_eq] at agrees
  obtain ⟨⟨⟨⟨⟨⟨⟨-, isMonth⟩, isDay⟩, isOrdinal⟩, isSundayWeek⟩, isMondayWeek⟩, isIsoWeek⟩,
    isWeekday⟩ := agrees
  exact ⟨isMonth, isDay, isOrdinal, isSundayWeek, isMondayWeek, isIsoWeek, isWeekday⟩

/-- Each set of fields that is complete names every day of the year that the fields agree on. -/
theorem inYear_of_agreesOn (agrees : fields.agreesOn day = true) :
    fields.inYear day.year = .ok day ∨ fields.inYear day.year = .error .incomplete := by
  obtain ⟨isMonth, isDay, isOrdinal, isSundayWeek, isMondayWeek, -, isWeekday⟩ :=
    eq_of_agreesOn agrees
  unfold inYear
  split
  case h_1 hasMonth hasDay =>
    rw [isMonth _ hasMonth, isDay _ hasDay]
    exact .inl (orContradictory_eq_ok_iff.mpr (dif_pos day.isDate))
  case h_2 hasOrdinal _ =>
    rw [isOrdinal _ hasOrdinal]
    exact .inl (orContradictory_eq_ok_iff.mpr day.ofOrdinal?_ordinal)
  case h_3 hasWeek hasWeekday _ _ =>
    rw [isSundayWeek _ hasWeek, isWeekday _ hasWeekday]
    exact .inl (orContradictory_eq_ok_iff.mpr (day.ofWeek?_weekFrom (by decide)))
  case h_4 hasWeek hasWeekday _ _ _ =>
    rw [isMondayWeek _ hasWeek, isWeekday _ hasWeekday]
    exact .inl (orContradictory_eq_ok_iff.mpr (day.ofWeek?_weekFrom (by decide)))
  case h_5 => exact .inr rfl

/-- A day that fields name in a year is a day of that year. -/
theorem year_eq_of_inYear (isDay : fields.inYear year = .ok day) : day.year = year := by
  unfold inYear at isDay
  split at isDay
  case h_5 => cases isDay
  all_goals exact CalendarDay.year_eq_of_ofParts? (orContradictory_eq_ok_iff.mp isDay)

theorem candidate_eq_inYear
    (suffice : fields.SufficesInYear)
    (isoYear? : Option Int) :
    fields.candidate (some year) isoYear? = fields.inYear year := by
  have notIncomplete : fields.inYear year ≠ .error .incomplete :=
    fun isIncomplete => inYear_eq_incomplete_iff.mp isIncomplete suffice
  unfold candidate
  split
  · next isIncomplete => exact absurd isIncomplete notIncomplete
  · rfl

theorem date_eq_bind
    {year? : Option Int}
    (isYear : fields.year.year? = .ok year?)
    (isIsoYear : fields.isoYear.year? = .ok isoYear?) :
    fields.date = (do
      let day ← fields.candidate year? isoYear?
      if fields.agreesOn day then return day else throw .contradictory) := by
  rw [date, isYear, Outcome.ok_bind, isIsoYear, Outcome.ok_bind]

/-- Fields that suffice name exactly the day of their year that agrees with all of them. -/
theorem date_eq_ok_iff_agreesOn
    (isYear : fields.year.year? = .ok (some year))
    (isIsoYear : fields.isoYear.year? = .ok isoYear?)
    (suffice : fields.SufficesInYear) :
    fields.date = .ok day ↔ day.year = year ∧ fields.agreesOn day = true := by
  rw [date_eq_bind isYear isIsoYear, candidate_eq_inYear suffice, Outcome.bind_eq_ok_iff]
  constructor
  · rintro ⟨named, isNamed, isDay⟩
    split_ifs at isDay with agrees
    cases isDay
    exact ⟨year_eq_of_inYear isNamed, agrees⟩
  · rintro ⟨rfl, agrees⟩
    have isNamed : fields.inYear day.year = .ok day :=
      (inYear_of_agreesOn agrees).resolve_right fun isIncomplete =>
        inYear_eq_incomplete_iff.mp isIncomplete suffice
    exact ⟨day, isNamed, if_pos agrees⟩

/-- A week and a weekday name the day of their ISO year that agrees with all fields. -/
theorem date_eq_ok_of_isoWeek
    {week weekday : Nat}
    (isYear : fields.year.year? = .ok none)
    (isIsoYear : fields.isoYear.year? = .ok (some day.isoWeek.1))
    (hasWeek : fields.isoWeek = some week)
    (hasWeekday : fields.weekday = some weekday)
    (agrees : fields.agreesOn day = true) :
    fields.date = .ok day := by
  obtain ⟨-, -, -, -, -, isWeek, isWeekday⟩ := eq_of_agreesOn agrees
  have isNamed : fields.inIsoYear day.isoWeek.1 = .ok day := by
    rw [inIsoYear, hasWeek, hasWeekday, isWeek _ hasWeek, isWeekday _ hasWeekday]
    exact orContradictory_eq_ok_iff.mpr day.ofIsoWeek?_isoWeek
  have isCandidate : fields.candidate none (some day.isoWeek.1) = .ok day := isNamed
  rw [date_eq_bind isYear isIsoYear, isCandidate]
  exact if_pos agrees

/-! ## Timestamps -/

/-- The fields that a timestamp alone leads to. -/
def stampedFields (timestamp : Nat) (moment : DateTime) : TimeFields where
  year := { year := some moment.year }
  ordinal := some moment.date.ordinal
  halfDay := some (moment.hour / 12)
  hourOfHalf := some (moment.hour % 12)
  minute := some moment.minute
  second := some moment.second
  timestamp := some timestamp

theorem date_stampedFields (timestamp : Nat) (moment : DateTime) :
    (stampedFields timestamp moment).date = .ok moment.date := by
  have agrees : (stampedFields timestamp moment).agreesOn moment.date = true := by
    simp [stampedFields, agreesOn, YearFields.agrees, DateTime.date]
  exact (date_eq_ok_iff_agreesOn (YearFields.year?_of_year _) rfl (.inr (.inl rfl))).mpr
    ⟨rfl, agrees⟩

theorem timeOn?_stampedFields
    (timestamp : Nat)
    {moment : DateTime}
    (isWhole : moment.nanosecond = 0) :
    (stampedFields timestamp moment).timeOn? moment.date = some moment := by
  have isSecond := moment.isTime.2.2.1
  dsimp only [timeOn?, stampedFields]
  rw [if_neg (by omega), Nat.div_add_mod]
  exact moment.ofParts?_eq_some rfl isWhole

theorem ofTimestamp?_of_timestamp (timestamp : Nat) :
    ofTimestamp? { timestamp := some timestamp } timestamp =
      DateTime.ofTimestamp? timestamp := by
  cases isMoment : DateTime.ofTimestamp? timestamp with
  | none =>
      rw [ofTimestamp?, isMoment]
      rfl
  | some moment =>
      rw [ofTimestamp?, isMoment]
      change (stampedFields timestamp moment).dayAndTime? = some moment
      rw [dayAndTime?, date_stampedFields]
      exact timeOn?_stampedFields timestamp (DateTime.nanosecond_of_ofTimestamp? isMoment)

/-- A timestamp alone names the point in time that it is counted to. -/
theorem resolve?_timestamp (timestamp : Nat) :
    resolve? { timestamp := some timestamp } = DateTime.ofTimestamp? timestamp := by
  have noDate : date { timestamp := some timestamp } = .error .incomplete := rfl
  rw [resolve?, complete?, noDate]
  dsimp only [Option.bind_some]
  rw [ofTimestamp?_of_timestamp]
  cases DateTime.ofTimestamp? timestamp <;> rfl

end TimeFields
end RowBinding
