import RowBinding.DateTime.Layout
import RowBinding.Proofs.DateTimeFields
import RowBinding.Proofs.Text.Parts

/-!
# Points in time and their texts

Each part of the text of a point in time ends where the field of the layout
stops to read: a year of four digits by its length, and a year with a sign, a
field of two digits and a fraction where no digit follows. So the first of the
layouts that are used where none are given reads the text as what it shows.

That is the point in time itself, except for a leap second that is not the
sixty-first of its minute: its text shows the second that follows. A fraction
of zero is not written, and a field that is not read stands for it.
-/

namespace RowBinding

open Text (StartsWithoutDigit padZeros decimalDigits digitsValue)

/-! ## Fields of digits -/

namespace LayoutItem

/-- A number ends at its greatest length, or where no digit follows. -/
theorem readNumber?_append
    {digits rest : List Char}
    {width : Nat}
    (areDigits : ∀ digit ∈ digits, digit.isDigit = true)
    (nonempty : digits ≠ [])
    (fits : digits.length ≤ width)
    (ends : digits.length = width ∨ StartsWithoutDigit rest) :
    readNumber? width (digits ++ rest) = some (digitsValue digits, rest) := by
  have cutEnds : StartsWithoutDigit (rest.take (width - digits.length)) := by
    intro char isFirst
    rw [List.head?_take] at isFirst
    split at isFirst
    · cases isFirst
    · next isLonger => exact ends.resolve_left (by omega) char isFirst
  have isRun : ((digits ++ rest).take width).takeWhile Char.isDigit = digits := by
    rw [List.take_append, List.take_of_length_le fits]
    exact Text.takeWhile_isDigit_append areDigits cutEnds
  rw [readNumber?, isRun, List.isEmpty_eq_false_iff.mpr nonempty, List.drop_left]
  rfl

section Padded

variable {width number : Nat} {rest : List Char}

theorem readNumber?_padZeros
    (positive : 0 < width)
    (isLess : number < 10 ^ width) :
    readNumber? width (padZeros width (decimalDigits number) ++ rest) = some (number, rest) := by
  have isLength := Text.length_padZeros_decimalDigits positive isLess
  rw [readNumber?_append Text.isDigit_of_mem_padZeros_decimalDigits
    (Text.padZeros_decimalDigits_ne_nil _ _) isLength.le (.inl isLength),
    Text.digitsValue_padZeros, Text.digitsValue_decimalDigits]

/-- A field of as many digits as it takes is read between its bounds. -/
theorem readField?_padZeros
    {least greatest : Nat}
    (positive : 0 < width)
    (isLeast : least ≤ number)
    (isGreatest : number ≤ greatest)
    (isShort : greatest < 10 ^ width) :
    readField? width least greatest (padZeros width (decimalDigits number) ++ rest) =
      some (number, rest) := by
  rw [readField?, Text.trimLeft_append Text.isBlank_of_mem_padZeros_decimalDigits
    (Text.padZeros_decimalDigits_ne_nil _ _),
    readNumber?_padZeros positive (isGreatest.trans_lt isShort), Option.bind_some]
  simp [isLeast, isGreatest]

/-- A fraction of a few digits counts as many nanoseconds as its places say. -/
theorem readFraction?_padZeros
    (positive : 0 < width)
    (isShort : width ≤ 9)
    (isLess : number < 10 ^ width) :
    readFraction? (padZeros width (decimalDigits number)) =
      some (number * 10 ^ (9 - width), []) := by
  have isLength := Text.length_padZeros_decimalDigits positive isLess
  have areDigits : ∀ digit ∈ padZeros width (decimalDigits number), digit.isDigit = true :=
    Text.isDigit_of_mem_padZeros_decimalDigits
  rw [readFraction?, List.takeWhile_eq_self_iff.mpr areDigits,
    List.dropWhile_eq_nil_iff.mpr areDigits,
    List.isEmpty_eq_false_iff.mpr (Text.padZeros_decimalDigits_ne_nil _ _)]
  rw [List.take_of_length_le (isLength.trans_le isShort), isLength, Text.digitsValue_padZeros,
    Text.digitsValue_decimalDigits]
  rfl

end Padded

/-! ## Years -/

theorem readYear?_of_isDigit
    {first : Char}
    (isDigit : first.isDigit = true)
    (rest : List Char) :
    readYear? (first :: rest) =
      (readNumber? 4 (first :: rest)).map fun (value, behind) => ((value : Int), behind) := by
  unfold readYear?
  split
  · next isMinus =>
      rw [(List.cons.inj isMinus).1] at isDigit
      cases isDigit
  · next isPlus =>
      rw [(List.cons.inj isPlus).1] at isDigit
      cases isDigit
  · rfl

/-- A year is read as it is written if no digit follows. -/
theorem readYear?_yearText
    {rest : List Char}
    (ends : StartsWithoutDigit rest)
    (year : Int) :
    readYear? ((DateTime.yearText year).toList ++ rest) = some (year, rest) := by
  have areDigits : ∀ digit ∈ padZeros 4 (decimalDigits year.natAbs), digit.isDigit = true :=
    Text.isDigit_of_mem_padZeros_decimalDigits
  have nonempty := Text.padZeros_decimalDigits_ne_nil 4 year.natAbs
  have reads : readNumber? (padZeros 4 (decimalDigits year.natAbs) ++ rest).length
      (padZeros 4 (decimalDigits year.natAbs) ++ rest) = some (year.natAbs, rest) := by
    rw [readNumber?_append areDigits nonempty (by simp) (.inr ends), Text.digitsValue_padZeros,
      Text.digitsValue_decimalDigits]
  unfold DateTime.yearText
  split_ifs with isShort isNegative
  · rw [Bool.and_eq_true, decide_eq_true_eq, decide_eq_true_eq] at isShort
    obtain ⟨isPositive, isLess⟩ := isShort
    have isYear : (year.natAbs : Int) = year := by omega
    rw [Text.toList_ofNatPadded]
    cases isText : padZeros 4 (decimalDigits year.natAbs) with
    | nil => exact absurd isText nonempty
    | cons first later =>
        have isDigit := areDigits first (isText ▸ List.mem_cons_self)
        rw [List.cons_append, readYear?_of_isDigit isDigit, ← List.cons_append, ← isText,
          readNumber?_padZeros (by decide) (by omega)]
        exact congrArg (fun value => some (value, rest)) isYear
  · have isYear : -(year.natAbs : Int) = year := by omega
    rw [String.toList_append, Text.toList_ofNatPadded]
    exact (congrArg (Option.map _) reads).trans
      (congrArg (fun value => some (value, rest)) isYear)
  · have isYear : (year.natAbs : Int) = year := by omega
    rw [String.toList_append, Text.toList_ofNatPadded]
    exact (congrArg (Option.map _) reads).trans
      (congrArg (fun value => some (value, rest)) isYear)

end LayoutItem

/-! ## Parts of texts -/

namespace DateTime

/-- A year is written as at least four digits, with a sign or without. -/
theorem exists_yearText_eq (year : Int) :
    ∃ sign : List Char, (∀ char ∈ sign, Text.isBlank char = false) ∧
      (yearText year).toList = sign ++ padZeros 4 (decimalDigits year.natAbs) := by
  unfold yearText
  split_ifs
  · exact ⟨[], nofun, Text.toList_ofNatPadded _ _⟩
  · exact ⟨['-'], List.forall_mem_singleton.mpr rfl, by simp⟩
  · exact ⟨['+'], List.forall_mem_singleton.mpr rfl, by simp⟩

theorem isBlank_of_mem_yearText (year : Int) :
    ∀ char ∈ (yearText year).toList, Text.isBlank char = false := by
  obtain ⟨sign, noBlanks, isText⟩ := exists_yearText_eq year
  rw [isText]
  exact List.forall_mem_append.mpr ⟨noBlanks, Text.isBlank_of_mem_padZeros_decimalDigits⟩

theorem yearText_ne_nil (year : Int) : (yearText year).toList ≠ [] := by
  obtain ⟨sign, _, isText⟩ := exists_yearText_eq year
  rw [isText]
  exact List.append_ne_nil_of_right_ne_nil _ (Text.padZeros_decimalDigits_ne_nil _ _)

/-- A fraction is written as the digits of a multiple of its last place. -/
theorem exists_fractionText_eq
    {nanosecond : Nat}
    (positive : 0 < nanosecond)
    (isLess : nanosecond < 1000000000) :
    ∃ width number, 0 < width ∧ width ≤ 9 ∧ number < 10 ^ width ∧
      number * 10 ^ (9 - width) = nanosecond ∧
        (fractionText nanosecond).toList = '.' :: padZeros width (decimalDigits number) := by
  unfold fractionText
  split_ifs with isZero isMilli isMicro
  · omega
  · exact ⟨3, nanosecond / 1000000, by decide, by decide, by omega, by omega, by simp⟩
  · exact ⟨6, nanosecond / 1000, by decide, by decide, by omega, by omega, by simp⟩
  · exact ⟨9, nanosecond, by decide, by decide, isLess, by omega, by simp⟩

/-- The text of a point in time is made of the texts of its parts. -/
theorem toList_toText (moment : DateTime) :
    moment.toText.toList = (yearText moment.year).toList ++
      '-' :: (padZeros 2 (decimalDigits moment.month) ++
        '-' :: (padZeros 2 (decimalDigits moment.day) ++
          ' ' :: (padZeros 2 (decimalDigits moment.hour) ++
            ':' :: (padZeros 2 (decimalDigits moment.minute) ++
              ':' :: (padZeros 2 (decimalDigits moment.shownSecond) ++
                (fractionText moment.shownFraction).toList))))) := by
  simp [toText, textWith]

/-- The second that is shown may be the sixty-first of its minute. -/
theorem shownSecond_le (moment : DateTime) : moment.shownSecond ≤ 60 := by
  obtain ⟨_, _, isSecond, isNanosecond⟩ := moment.isTime
  unfold shownSecond
  omega

theorem shown_of_isLeap
    (moment : DateTime)
    (isLeap : 1000000000 ≤ moment.nanosecond) :
    moment.shownSecond = moment.second + 1 ∧
      moment.shownFraction = moment.nanosecond - 1000000000 := by
  have isNanosecond := moment.isTime.2.2.2
  unfold shownSecond shownFraction
  omega

theorem shown_of_not_isLeap
    (moment : DateTime)
    (notLeap : ¬ 1000000000 ≤ moment.nanosecond) :
    moment.shownSecond = moment.second ∧ moment.shownFraction = moment.nanosecond := by
  unfold shownSecond shownFraction
  omega

theorem shownFraction_lt (moment : DateTime) : moment.shownFraction < 1000000000 :=
  Nat.mod_lt _ (by decide)

end DateTime

/-! ## Runs over a layout -/

namespace LayoutItem

theorem readAll?_cons_of_read?
    {item : LayoutItem}
    {items : List LayoutItem}
    {fields read : TimeFields}
    {chars rest : List Char}
    (reads : item.read? fields chars = some (read, rest)) :
    readAll? (item :: items) fields chars = readAll? items read rest := by
  rw [readAll?, reads, Option.bind_some]

variable {fields : TimeFields} {rest : List Char}

theorem read?_literal (char : Char) :
    (literal char).read? fields (char :: rest) = some (fields, rest) :=
  if_pos rfl

/-- The fields of a date and a time of day that have not been read, each with the fields once
it has been read. -/
inductive Gives (fields : TimeFields) (value : Nat) : NumberField → TimeFields → Prop
  | month (unread : fields.month = none) :
      Gives fields value .month { fields with month := some value }
  | day (unread : fields.day = none) :
      Gives fields value .day { fields with day := some value }
  | hour (unread : fields.halfDay = none ∧ fields.hourOfHalf = none) :
      Gives fields value .hour
        { fields with halfDay := some (value / 12), hourOfHalf := some (value % 12) }
  | minute (unread : fields.minute = none) :
      Gives fields value .minute { fields with minute := some value }
  | second (unread : fields.second = none) :
      Gives fields value .second { fields with second := some value }

theorem Gives.read?_eq
    {field : NumberField}
    {value : Nat}
    {read : TimeFields}
    (gives : Gives fields value field read)
    (isLeast : field.bounds.1 ≤ value)
    (isGreatest : value ≤ field.bounds.2) :
    (number field).read? fields (padZeros field.width (decimalDigits value) ++ rest) =
      some (read, rest) := by
  have isGiven : field.give? fields value = some read := by
    cases gives with
    | month unread | day unread | minute unread | second unread =>
        rw [NumberField.give?, unread]
        rfl
    | hour unread =>
        rw [NumberField.give?, TimeFields.giveHour?, unread.1, unread.2]
        rfl
  have isShort : 0 < field.width ∧ field.bounds.2 < 10 ^ field.width := by
    cases gives <;> decide
  rw [read?, readField?_padZeros isShort.1 isLeast isGreatest isShort.2]
  exact congrArg (Option.bind · fun given => some (given, rest)) isGiven

theorem read?_year
    {value : Int}
    (unread : fields.year.year = none)
    (ends : StartsWithoutDigit rest) :
    year.read? fields ((DateTime.yearText value).toList ++ rest) =
      some ({ fields with year := { fields.year with year := some value } }, rest) := by
  have isGiven : fields.giveYear? value =
      some { fields with year := { fields.year with year := some value } } := by
    rw [TimeFields.giveYear?, unread]
    rfl
  rw [read?, Text.trimLeft_append (DateTime.isBlank_of_mem_yearText value)
    (DateTime.yearText_ne_nil value), readYear?_yearText ends]
  exact congrArg (Option.bind · fun given => some (given, rest)) isGiven

/-- The nanoseconds that a fraction is read as are those that it is written for. -/
theorem exists_read?_fraction
    {nanosecond : Nat}
    (unread : fields.nanosecond = none)
    (isLess : nanosecond < 1000000000) :
    ∃ field : Option Nat, field.getD 0 = nanosecond ∧
      fraction.read? fields (DateTime.fractionText nanosecond).toList =
        some ({ fields with nanosecond := field }, []) := by
  rcases Nat.eq_zero_or_pos nanosecond with rfl | positive
  · refine ⟨none, rfl, ?_⟩
    rw [← unread]
    rfl
  · obtain ⟨width, number, isWidth, isShort, isNumber, isNanosecond, isText⟩ :=
      DateTime.exists_fractionText_eq positive isLess
    have isGiven : fields.giveNanosecond? nanosecond =
        some { fields with nanosecond := some nanosecond } := by
      rw [TimeFields.giveNanosecond?, unread]
      rfl
    refine ⟨some nanosecond, rfl, ?_⟩
    rw [isText, read?, readFraction?_padZeros isWidth isShort isNumber, isNanosecond]
    exact congrArg (Option.bind · fun given => some (given, [])) isGiven

/-- A gap takes the blank in front of digits. -/
theorem read?_gap (value : Nat) :
    gap.read? fields (' ' :: (padZeros 2 (decimalDigits value) ++ rest)) =
      some (fields, padZeros 2 (decimalDigits value) ++ rest) := by
  rw [read?, Text.trimLeft_cons, if_pos (by decide),
    Text.trimLeft_append Text.isBlank_of_mem_padZeros_decimalDigits
      (Text.padZeros_decimalDigits_ne_nil _ _)]

/-- The fields that the text of a point in time is read into. -/
def shownFields (moment : DateTime) (fraction : Option Nat) : TimeFields where
  year := { year := some moment.year }
  month := some moment.month
  day := some moment.day
  halfDay := some (moment.hour / 12)
  hourOfHalf := some (moment.hour % 12)
  minute := some moment.minute
  second := some moment.shownSecond
  nanosecond := fraction

/-- The first of the default layouts reads a text into the parts that it is made of. -/
theorem exists_readAll?_toText (moment : DateTime) :
    ∃ fraction : Option Nat, fraction.getD 0 = moment.shownFraction ∧
      readAll? (ofPattern "%Y-%m-%d %H:%M:%S%.f".toList) {} moment.toText.toList =
        some (shownFields moment fraction) := by
  obtain ⟨_, ⟨monthPositive, isMonth⟩, dayPositive, isDay⟩ := moment.isDate
  obtain ⟨isHour, isMinute, _, _⟩ := moment.isTime
  have isLayout : ofPattern "%Y-%m-%d %H:%M:%S%.f".toList =
      [.year, .literal '-', .number .month, .literal '-', .number .day, .gap, .number .hour,
        .literal ':', .number .minute, .literal ':', .number .second, .fraction] := rfl
  have unread : (shownFields moment none).nanosecond = none := rfl
  obtain ⟨fraction, isFraction, readsFraction⟩ :=
    exists_read?_fraction unread moment.shownFraction_lt
  refine ⟨fraction, isFraction, ?_⟩
  rw [isLayout, DateTime.toList_toText]
  -- One step for each element of the layout, from front to back.
  refine (readAll?_cons_of_read? (read?_year rfl (Text.startsWithoutDigit_cons rfl))).trans ?_
  refine (readAll?_cons_of_read? (read?_literal '-')).trans ?_
  refine (readAll?_cons_of_read? (Gives.read?_eq (.month rfl) monthPositive isMonth)).trans ?_
  refine (readAll?_cons_of_read? (read?_literal '-')).trans ?_
  refine (readAll?_cons_of_read? (Gives.read?_eq (.day rfl) dayPositive
    (isDay.trans (daysInMonth_le _ _)))).trans ?_
  refine (readAll?_cons_of_read? (read?_gap _)).trans ?_
  refine (readAll?_cons_of_read? (Gives.read?_eq (.hour ⟨rfl, rfl⟩) (Nat.zero_le _)
    (Nat.le_of_lt_succ isHour))).trans ?_
  refine (readAll?_cons_of_read? (read?_literal ':')).trans ?_
  refine (readAll?_cons_of_read? (Gives.read?_eq (.minute rfl) (Nat.zero_le _)
    (Nat.le_of_lt_succ isMinute))).trans ?_
  refine (readAll?_cons_of_read? (read?_literal ':')).trans ?_
  refine (readAll?_cons_of_read? (Gives.read?_eq (.second rfl) (Nat.zero_le _)
    moment.shownSecond_le)).trans ?_
  exact readAll?_cons_of_read? readsFraction

end LayoutItem

/-! ## Points in time that texts show -/

namespace DateTime

/-- Whether a point in time is in a leap second that is not the sixty-first of its minute. -/
def IsStrayLeap (moment : DateTime) : Prop :=
  1000000000 ≤ moment.nanosecond ∧ moment.second ≠ 59

instance (moment : DateTime) : Decidable moment.IsStrayLeap :=
  inferInstanceAs (Decidable (_ ∧ _))

/-- What the text of a point in time shows: a stray leap second looks like the next second. -/
def shown (moment : DateTime) : DateTime :=
  if isStray : moment.IsStrayLeap then
    ⟨moment.year, moment.month, moment.day, moment.hour, moment.minute, moment.second + 1,
      moment.nanosecond - 1000000000, moment.isDate, by
        obtain ⟨isHour, isMinute, isSecond, isNanosecond⟩ := moment.isTime
        obtain ⟨isLeap, notLast⟩ := isStray
        exact ⟨isHour, isMinute, by omega, by omega⟩⟩
  else
    moment

theorem shown_eq_self_iff (moment : DateTime) : moment.shown = moment ↔ ¬ moment.IsStrayLeap := by
  unfold shown
  split_ifs with isStray
  · exact iff_of_false (fun same => Nat.succ_ne_self _ (congrArg second same)) (not_not_intro isStray)
  · exact iff_of_true rfl isStray

/-- A point in time and what its text shows have the same text. -/
theorem toText_shown (moment : DateTime) : moment.shown.toText = moment.toText := by
  by_cases isStray : moment.IsStrayLeap
  · obtain ⟨isNext, isRest⟩ := moment.shown_of_isLeap isStray.1
    have notLeap : ¬ 1000000000 ≤ moment.nanosecond - 1000000000 := by
      have isNanosecond := moment.isTime.2.2.2
      omega
    rw [shown, dif_pos isStray, toText, textWith, toText, textWith, isNext, isRest]
    obtain ⟨isSame, isWhole⟩ := shown_of_not_isLeap ⟨moment.year, moment.month, moment.day,
      moment.hour, moment.minute, moment.second + 1, moment.nanosecond - 1000000000,
      moment.isDate, _⟩ notLeap
    rw [isSame, isWhole]
  · rw [moment.shown_eq_self_iff.mpr isStray]

end DateTime

/-! ## Whole texts -/

namespace TimeFields

open LayoutItem (shownFields)

variable (moment : DateTime) (fraction : Option Nat)

theorem date_shownFields : (shownFields moment fraction).date = .ok moment.date := by
  have agrees : (shownFields moment fraction).agreesOn moment.date = true := by
    simp [shownFields, agreesOn, YearFields.agrees, DateTime.date]
  exact (date_eq_ok_iff_agreesOn (YearFields.year?_of_year _) rfl (.inl ⟨rfl, rfl⟩)).mpr
    ⟨rfl, agrees⟩

/-- The sixty-first second of a minute is read as a leap second, and every other one is not. -/
theorem timeOn?_shownFields (isFraction : fraction.getD 0 = moment.shownFraction) :
    (shownFields moment fraction).timeOn? moment.date = some moment.shown := by
  have isSecond := moment.isTime.2.2.1
  have isHour : 12 * (moment.hour / 12) + moment.hour % 12 = moment.hour := Nat.div_add_mod _ _
  dsimp only [timeOn?, shownFields]
  rw [isFraction, isHour]
  by_cases isLeap : 1000000000 ≤ moment.nanosecond
  · obtain ⟨isNext, isRest⟩ := moment.shown_of_isLeap isLeap
    by_cases isLast : moment.second = 59
    · have notStray : ¬ moment.IsStrayLeap := fun isStray => isStray.2 isLast
      rw [if_pos (by omega), moment.shown_eq_self_iff.mpr notStray]
      exact DateTime.ofParts?_eq_some moment isLast (by omega)
    · rw [if_neg (by omega), isNext, isRest, DateTime.shown, dif_pos ⟨isLeap, isLast⟩]
      exact dif_pos _
  · obtain ⟨isSame, isWhole⟩ := moment.shown_of_not_isLeap isLeap
    have notStray : ¬ moment.IsStrayLeap := fun isStray => isLeap isStray.1
    rw [if_neg (by omega), isSame, isWhole, moment.shown_eq_self_iff.mpr notStray]
    exact DateTime.ofParts?_eq_some moment rfl rfl

end TimeFields

namespace DateTime

theorem read?_toText (moment : DateTime) :
    read? defaultLayouts moment.toText.toList = some moment.shown := by
  obtain ⟨fraction, isFraction, reads⟩ := LayoutItem.exists_readAll?_toText moment
  have isDate := TimeFields.date_shownFields moment fraction
  have isTime := TimeFields.timeOn?_shownFields moment fraction isFraction
  have isFirst : readBy? moment.toText.toList "%Y-%m-%d %H:%M:%S%.f" = some moment.shown := by
    rw [readBy?, reads, Option.bind_some, TimeFields.resolve?, TimeFields.complete?, isDate]
    dsimp only
    rw [isTime]
    rfl
  rw [read?, defaultLayouts, List.findSome?_cons, isFirst]

theorem isBlank_of_mem_fractionText
    {nanosecond : Nat}
    (isLess : nanosecond < 1000000000) :
    ∀ char ∈ (fractionText nanosecond).toList, Text.isBlank char = false := by
  rcases Nat.eq_zero_or_pos nanosecond with rfl | positive
  · exact nofun
  · obtain ⟨width, number, _, _, _, _, isText⟩ := exists_fractionText_eq positive isLess
    rw [isText]
    exact List.forall_mem_cons.mpr ⟨by decide, Text.isBlank_of_mem_padZeros_decimalDigits⟩

theorem trimChars_toText (moment : DateTime) :
    Text.trimChars moment.toText.toList = moment.toText.toList := by
  obtain ⟨middle, isText⟩ : ∃ middle, moment.toText.toList =
      (yearText moment.year).toList ++ (middle ++
        (padZeros 2 (decimalDigits moment.shownSecond) ++
          (fractionText moment.shownFraction).toList)) :=
    ⟨'-' :: (padZeros 2 (decimalDigits moment.month) ++
      '-' :: (padZeros 2 (decimalDigits moment.day) ++
        ' ' :: (padZeros 2 (decimalDigits moment.hour) ++
          ':' :: (padZeros 2 (decimalDigits moment.minute) ++ [':'])))),
      by simp [toList_toText]⟩
  rw [isText]
  refine Text.trimChars_append (isBlank_of_mem_yearText _) (yearText_ne_nil _) ?_
    (List.append_ne_nil_of_left_ne_nil (Text.padZeros_decimalDigits_ne_nil _ _) _) middle
  exact List.forall_mem_append.mpr ⟨Text.isBlank_of_mem_padZeros_decimalDigits,
    isBlank_of_mem_fractionText moment.shownFraction_lt⟩

end DateTime
end RowBinding
