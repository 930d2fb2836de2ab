import RowBinding.Proofs.DateTimeTexts
import RowBinding.Proofs.GuidTexts
import RowBinding.Proofs.NumberTexts
import RowBinding.Value.Equality

/-!
# Values carried by their texts

A truth value, an integer, a character, a point in time and an identifier
convert to a text that converts back into them. So does a decimal, but for the
zeros at its end behind the point and for the sign of a zero, which its text
does not show.

The text of a character is taken as it stands, while all other texts are
trimmed. So a blank is carried as well as every other character.

A leap second is shown as the number behind its second, which is read as a leap
second only if it is the sixty-first of its minute. So a leap second behind any
other second comes back as the second that follows it.
-/

namespace RowBinding

/-- The types whose values are carried by their texts. -/
def DataType.IsCarried : DataType → Prop
  | .boolean | .integer _ | .decimal | .char | .dateTime | .guid => True
  | .object | .string | .float32 | .float64 | .bytes | .time => False

namespace Value

variable (layouts : List String)

/-! ## There and back -/

theorem convert_string_of_isNull_eq_false
    {value : Value}
    (notNull : value.isNull = false) :
    value.convert layouts .string = .ok (.string value.toText) := by
  by_cases isText : value.dataType? = some .string
  · cases value with
    | string text => exact convert_of_dataType? layouts rfl
    | _ => cases isText
  · rw [convert, if_neg (by simpa using isText), notNull]
    rfl

theorem convert_toText_boolean (truth : Bool) :
    (Value.string (Value.boolean truth).toText).convert layouts .boolean =
      .ok (.boolean truth) := by
  cases truth <;> rfl

theorem convert_toText_integer (integer : Integer) :
    (Value.string (Value.integer integer).toText).convert layouts (.integer integer.kind) =
      .ok (.integer integer) := by
  have isTextInteger : IsTextInteger integer.value := integer.inRange.isTextInteger (by omega)
  rw [toText, convert_string_of_readInt? layouts integer.kind
    (Text.readInt?_ofInt integer.value) isTextInteger, narrow_of_contains integer.inRange]
  rfl

theorem convert_toText_decimal (decimal : Decimal) :
    (Value.string (Value.decimal decimal).toText).convert layouts .decimal =
      .ok (.decimal decimal.normalize) := by
  rw [convert_string_eq_convertTo layouts _ .decimal nofun nofun, convertTo, toDecimal, toText,
    decimalOfText_toText decimal.isNormal_normalize]
  rfl

theorem convert_toText_char (letter : Char) :
    (Value.string (Value.char letter).toText).convert layouts .char = .ok (.char letter) := by
  rw [convert_string_eq_convertTo layouts _ .char nofun nofun, convertTo, toChar, toText,
    String.toList_singleton]
  rfl

theorem convert_toText_dateTime (moment : DateTime) :
    (Value.string (Value.dateTime moment).toText).convert DateTime.defaultLayouts .dateTime =
      .ok (.dateTime moment.shown) := by
  rw [convert_string_eq_convertTo _ _ .dateTime nofun nofun, convertTo, toDateTime, toText,
    moment.trimChars_toText, moment.read?_toText]
  rfl

theorem convert_toText_guid (guid : Guid) :
    (Value.string (Value.guid guid).toText).convert layouts .guid = .ok (.guid guid) := by
  rw [convert_string_eq_convertTo layouts _ .guid nofun nofun, convertTo, toGuid, toText,
    guid.trimChars_toText, guid.read?_toText]
  rfl

/-- Whether the value is a leap second that is not the sixty-first of its minute. -/
def IsStrayLeap : Value → Prop
  | .dateTime moment => moment.IsStrayLeap
  | _ => False

/--
Every value of a type that is carried converts to a text that converts back, into an equal
value exactly if it is not a stray leap second.

The value that comes back is the same, except that a decimal comes back without zeros at
its end behind the point, a zero without a sign, and a stray leap second as the second that
its text shows.
-/
theorem exists_convert_of_isCarried
    {value : Value}
    {type : DataType}
    (typed : value.dataType? = some type)
    (isCarried : type.IsCarried) :
    ∃ text back, value.convert DateTime.defaultLayouts .string = .ok (.string text) ∧
      (Value.string text).convert DateTime.defaultLayouts type = .ok back ∧
        back.dataType? = some type ∧ (back.equal value = true ↔ ¬ value.IsStrayLeap) ∧
          (type ≠ .decimal → ¬ value.IsStrayLeap → back = value) ∧
            (∀ decimal, value = .decimal decimal →
              ∃ normal, back = .decimal normal ∧ normal.IsNormal ∧
                normal.toRat = decimal.toRat) ∧
              ∀ moment, value = .dateTime moment →
                text = moment.shown.toText ∧ back = .dateTime moment.shown := by
  refine ⟨value.toText, ?_⟩
  have isText := convert_string_of_isNull_eq_false DateTime.defaultLayouts
    (isNull_of_dataType? typed)
  cases value with
  | boolean truth =>
      cases typed
      exact ⟨_, isText, convert_toText_boolean _ truth, rfl, by simp [equal, IsStrayLeap],
        fun _ _ => rfl, nofun, fun _ same => nomatch same⟩
  | integer integer =>
      cases typed
      exact ⟨_, isText, convert_toText_integer _ integer, rfl, by simp [equal, IsStrayLeap],
        fun _ _ => rfl, nofun, fun _ same => nomatch same⟩
  | decimal decimal =>
      cases typed
      refine ⟨_, isText, convert_toText_decimal _ decimal, rfl,
        iff_of_true decimal.equal_normalize nofun, fun notDecimal => absurd rfl notDecimal, ?_,
        fun _ same => nomatch same⟩
      rintro _ ⟨⟩
      exact ⟨_, rfl, decimal.isNormal_normalize, decimal.toRat_normalize⟩
  | char letter =>
      cases typed
      exact ⟨_, isText, convert_toText_char _ letter, rfl, by simp [equal, IsStrayLeap],
        fun _ _ => rfl, nofun, fun _ same => nomatch same⟩
  | dateTime moment =>
      cases typed
      refine ⟨_, isText, convert_toText_dateTime moment, rfl, ?_,
        fun _ notStray => congrArg Value.dateTime (moment.shown_eq_self_iff.mpr notStray), nofun,
        ?_⟩
      · rw [equal, beq_iff_eq]
        exact moment.shown_eq_self_iff
      · rintro _ ⟨⟩
        exact ⟨moment.toText_shown.symm, rfl⟩
  | guid guid =>
      cases typed
      exact ⟨_, isText, convert_toText_guid _ guid, rfl, by simp [equal, IsStrayLeap],
        fun _ _ => rfl, nofun, fun _ same => nomatch same⟩
  | null | float32 | float64 | string | bytes | json | list | record | quoted =>
      cases typed <;> cases isCarried

/-- A leap second of a year before the first one, with a fraction. -/
def earlyLeapSecond : DateTime :=
  ⟨-44, 3, 15, 23, 59, 59, 1000500000, by decide, by decide⟩

/-- Minus zero with two places. -/
def minusZero : Decimal :=
  .ofFewDigits true 0 2

/-- A leap second comes back as it was, and minus zero as a normal zero. -/
theorem convert_earlyLeapSecond :
    (∃ text,
      (Value.dateTime earlyLeapSecond).convert DateTime.defaultLayouts .string =
          .ok (.string text) ∧
        (Value.string text).convert DateTime.defaultLayouts .dateTime =
          .ok (.dateTime earlyLeapSecond)) ∧
      ∃ text zero,
        (Value.decimal minusZero).convert DateTime.defaultLayouts .string =
            .ok (.string text) ∧
          (Value.string text).convert DateTime.defaultLayouts .decimal = .ok (.decimal zero) ∧
            zero.IsNormal ∧ zero.toRat = minusZero.toRat := by
  have isMoment : (Value.dateTime earlyLeapSecond).dataType? = some .dateTime := rfl
  have notStray : ¬ (Value.dateTime earlyLeapSecond).IsStrayLeap := fun isStray => isStray.2 rfl
  have isDecimal : (Value.decimal minusZero).dataType? = some .decimal := rfl
  refine ⟨?_, ?_⟩
  · obtain ⟨text, back, isText, isBack, _, _, same, _⟩ :=
      exists_convert_of_isCarried isMoment trivial
    exact ⟨text, isText, same nofun notStray ▸ isBack⟩
  · obtain ⟨text, back, isText, isBack, _, _, _, ofDecimal, _⟩ :=
      exists_convert_of_isCarried isDecimal trivial
    obtain ⟨zero, rfl, isZero⟩ := ofDecimal minusZero rfl
    exact ⟨text, zero, isText, isBack, isZero⟩

/-- A leap second behind the fifth second of a minute, with a fraction. -/
def strayLeapSecond : DateTime :=
  ⟨2015, 6, 30, 23, 56, 4, 1333333333, by decide, by decide⟩

/-- A leap second within a minute is not carried: its text is that of the next second. -/
theorem not_forall_convert_strayLeapSecond :
    (Value.dateTime strayLeapSecond).convert DateTime.defaultLayouts .string =
        .ok (.string "2015-06-30 23:56:05.333333333") ∧
      ¬ ∀ (value : Value) (type : DataType), value.dataType? = some type → type.IsCarried →
        ∃ text back, value.convert DateTime.defaultLayouts .string = .ok (.string text) ∧
          (Value.string text).convert DateTime.defaultLayouts type = .ok back ∧
            back.equal value = true := by
  refine ⟨rfl, fun isCarried => ?_⟩
  obtain ⟨text, back, isText, isBack, same⟩ :=
    isCarried (.dateTime strayLeapSecond) .dateTime rfl trivial
  obtain rfl : (Value.dateTime strayLeapSecond).toText = text :=
    string.inj (Except.ok.inj isText)
  rw [convert_toText_dateTime] at isBack
  cases isBack
  rw [equal, beq_iff_eq, DateTime.shown_eq_self_iff] at same
  exact same (by decide)

end Value
end RowBinding
