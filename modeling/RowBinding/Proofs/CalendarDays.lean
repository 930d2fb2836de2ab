import Mathlib.Order.Monotone.Basic
import RowBinding.Calendar

/-!
# Names of calendar days

Every day is found by its place in its year, by its number, and by its weekday
in a week of its year or of its ISO year.
-/

namespace RowBinding

/-! ## Lengths of months and years -/

theorem daysInMonth_le (year : Int) (month : Nat) : daysInMonth year month ≤ 31 := by
  unfold daysInMonth
  split_ifs <;> decide

theorem daysBeforeMonth_succ
    (year : Int)
    {month : Nat}
    (positive : 1 ≤ month) :
    daysBeforeMonth year (month + 1) = daysBeforeMonth year month + daysInMonth year month := by
  obtain ⟨before, rfl⟩ := Nat.exists_eq_add_of_le' positive
  rfl

theorem monotone_daysBeforeMonth (year : Int) : Monotone (daysBeforeMonth year) := by
  refine monotone_nat_of_le_succ fun month => ?_
  rcases Nat.eq_zero_or_pos month with rfl | positive
  · exact Nat.le_refl _
  · rw [daysBeforeMonth_succ year positive]
    exact Nat.le_add_right _ _

/-- Number of days of a year. -/
def daysInYear (year : Int) : Nat :=
  if isLeapYear year then 366 else 365

theorem daysInYear_le (year : Int) : daysInYear year ≤ 366 := by
  unfold daysInYear
  split_ifs <;> decide

theorem daysBeforeMonth_thirteen (year : Int) : daysBeforeMonth year 13 = daysInYear year := by
  unfold daysInYear
  by_cases isLeap : isLeapYear year = true
  all_goals simp [daysBeforeMonth, daysInMonth, isLeap]

theorem isLeapYear_iff (year : Int) :
    isLeapYear year = true ↔ year % 4 = 0 ∧ (year % 100 ≠ 0 ∨ year % 400 = 0) := by
  rw [isLeapYear, Bool.and_eq_true, Bool.or_eq_true, beq_iff_eq, bne_iff_ne, beq_iff_eq]

theorem daysBeforeYear_succ (year : Int) :
    daysBeforeYear (year + 1) = daysBeforeYear year + daysInYear year := by
  unfold daysBeforeYear daysInYear
  split_ifs with isLeap
  all_goals
    rw [isLeapYear_iff] at isLeap
    omega

namespace CalendarDay

variable (day : CalendarDay)

/-! ## Places in a year -/

theorem one_le_ordinal : 1 ≤ day.ordinal :=
  day.isDate.2.2.1.trans (Nat.le_add_left _ _)

theorem ordinal_le : day.ordinal ≤ daysInYear day.year := by
  obtain ⟨_, ⟨isPositive, isMonth⟩, _, isDay⟩ := day.isDate
  calc
    day.ordinal ≤ daysBeforeMonth day.year day.month + daysInMonth day.year day.month :=
      Nat.add_le_add_left isDay _
    _ = daysBeforeMonth day.year (day.month + 1) := (daysBeforeMonth_succ _ isPositive).symm
    _ ≤ daysBeforeMonth day.year 13 := monotone_daysBeforeMonth _ (by omega)
    _ = daysInYear day.year := daysBeforeMonth_thirteen _

/-- The months that begin before a day are those up to its own. -/
theorem daysBeforeMonth_lt_ordinal_iff {month : Nat} :
    daysBeforeMonth day.year month < day.ordinal ↔ month ≤ day.month := by
  obtain ⟨_, ⟨isPositive, _⟩, dayPositive, isDay⟩ := day.isDate
  constructor
  · intro isBefore
    by_contra isLater
    have isAfter : daysBeforeMonth day.year (day.month + 1) ≤ daysBeforeMonth day.year month :=
      monotone_daysBeforeMonth _ (by omega)
    rw [daysBeforeMonth_succ _ isPositive] at isAfter
    unfold ordinal at isBefore
    omega
  · intro isEarlier
    have isBefore := monotone_daysBeforeMonth day.year isEarlier
    unfold ordinal
    omega

theorem ofOrdinal?_ordinal : ofOrdinal? day.year day.ordinal = some day := by
  have counts : ∀ month ≤ 12, (List.range' 1 12).countP (· ≤ month) = month := by decide
  have isMonth : (List.range' 1 12).countP (daysBeforeMonth day.year · < day.ordinal) =
      day.month := by
    simp only [daysBeforeMonth_lt_ordinal_iff]
    exact counts _ day.isDate.2.1.2
  dsimp only [ofOrdinal?]
  rw [isMonth, ordinal, Nat.add_sub_cancel_left]
  exact dif_pos day.isDate

/-! ## Numbers -/

/-- The year guessed from the number of a day is at most a year off. -/
theorem guess_year :
    day.number * 400 / 146097 + 1 = day.year - 1 ∨ day.number * 400 / 146097 + 1 = day.year ∨
      day.number * 400 / 146097 + 1 = day.year + 1 := by
  have isFirst := day.one_le_ordinal
  have isLast : day.ordinal ≤ 366 := day.ordinal_le.trans (daysInYear_le _)
  unfold number daysBeforeYear
  omega

theorem ofNumber?_number : ofNumber? day.number = some day := by
  have isFirst := day.one_le_ordinal
  have isLast := day.ordinal_le
  have isNext := daysBeforeYear_succ day.year
  have isYear := daysBeforeYear_succ (day.year - 1)
  rw [Int.sub_add_cancel] at isYear
  have finds {year : Int} (isYear : year = day.year) :
      ofOrdinal? year (day.number - daysBeforeYear year + 1).toNat = some day := by
    have isOrdinal : (day.number - daysBeforeYear day.year + 1).toNat = day.ordinal := by
      unfold number
      omega
    rw [isYear, isOrdinal, ofOrdinal?_ordinal]
  refine finds ?_
  rcases day.guess_year with isGuess | isGuess | isGuess
  · rw [isGuess, Int.sub_add_cancel, if_neg, if_pos]
    · unfold number
      omega
    · unfold number
      omega
  · rw [isGuess, if_neg, if_neg]
    · unfold number
      omega
    · unfold number
      omega
  · rw [isGuess, if_pos, Int.add_sub_cancel]
    unfold number
    omega

/-! ## Weeks -/

theorem ofWeek?_weekFrom
    {first : Nat}
    (isWeekday : first < 7) :
    ofWeek? first day.year (day.weekFrom first) day.weekday = some day := by
  have isFirst := day.one_le_ordinal
  have isOrdinal : (1 + (daysSince (weekdayOf (daysBeforeYear day.year)) first : Int) +
      (day.weekFrom first - 1) * 7 + daysSince first day.weekday).toNat = day.ordinal := by
    unfold weekFrom weekday number daysSince weekdayOf
    omega
  rw [ofWeek?, isOrdinal, ofOrdinal?_ordinal]

/-- An ISO year starts as many weeks behind the last one as that has. -/
theorem isoYearStart_succ (year : Int) :
    isoYearStart (year + 1) = isoYearStart year + isoWeeksInYear year * 7 := by
  dsimp only [isoYearStart, isoWeeksInYear, weekdayOf]
  rw [daysBeforeYear_succ, daysInYear]
  cases isLeapYear year
  all_goals
    simp only [Bool.false_eq_true, and_false, and_true, or_false, if_false, if_true]
    split_ifs
  all_goals omega

theorem isoWeeksInYear_cases (year : Int) :
    isoWeeksInYear year = 52 ∨ isoWeeksInYear year = 53 := by
  dsimp only [isoWeeksInYear]
  split_ifs
  · exact .inr rfl
  · exact .inl rfl

theorem ofIsoWeek?_eq_some
    {year : Int}
    {week : Nat}
    (isFirst : 1 ≤ week)
    (isLast : week ≤ isoWeeksInYear year)
    (isNumber : day.number = isoYearStart year + (week - 1) * 7 + day.weekday) :
    ofIsoWeek? year week day.weekday = some day := by
  rw [ofIsoWeek?, if_pos (by simp [isFirst, isLast]), ← isNumber, ofNumber?_number]

theorem ofIsoWeek?_isoWeek :
    ofIsoWeek? day.isoWeek.1 day.isoWeek.2 day.weekday = some day := by
  have isFirst := day.one_le_ordinal
  have isLast : day.ordinal ≤ 366 := day.ordinal_le.trans (daysInYear_le _)
  have isNumber : day.number = isoYearStart day.year +
      (((day.ordinal + 9 - day.weekday) / 7 : Nat) - 1) * 7 + day.weekday := by
    dsimp only [isoYearStart]
    unfold weekday number weekdayOf
    omega
  unfold isoWeek
  dsimp only
  split_ifs with isBefore isBehind
  all_goals dsimp only
  · -- The week is the last one of the ISO year before.
    have isStart := isoYearStart_succ (day.year - 1)
    rw [Int.sub_add_cancel] at isStart
    refine day.ofIsoWeek?_eq_some ?_ (Nat.le_refl _) ?_
    · rcases isoWeeksInYear_cases (day.year - 1) with weeks | weeks <;> omega
    · rw [isNumber, isBefore, isStart]
      omega
  · -- The week is the first one of the next ISO year.
    have isWeek : (day.ordinal + 9 - day.weekday) / 7 = isoWeeksInYear day.year + 1 := by
      rcases isoWeeksInYear_cases day.year with weeks | weeks <;> omega
    have isStart := isoYearStart_succ day.year
    refine day.ofIsoWeek?_eq_some (Nat.le_refl _) ?_ ?_
    · rcases isoWeeksInYear_cases (day.year + 1) with weeks | weeks <;> omega
    · rw [isNumber, isWeek, isStart]
      omega
  · exact day.ofIsoWeek?_eq_some (Nat.one_le_iff_ne_zero.mpr isBefore) (Nat.not_lt.mp isBehind)
      isNumber

end CalendarDay
end RowBinding
