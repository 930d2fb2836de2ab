import RowBinding.Proofs.ConvertedTypes

/-!
# The table of conversions

The table says for a type of values and the type of a member what becomes of the
values: nothing, the values themselves, or what they convert to. Converting a
value of the type bears it out. It fails for the types exactly where the table
has no path, and otherwise only for the content of the value.
-/

namespace RowBinding
namespace ConversionRules

variable {source target : DataType} {member : MemberType}

/-- The table of conversions has a row for the values of a type. -/
def HasRow : DataType → Prop
  | .boolean | .integer _ | .float32 | .float64 | .decimal | .char | .string | .dateTime => True
  | .object | .guid | .bytes | .time => False

theorem HasRow.isSome_readOperation? (hasRow : HasRow source) :
    (readOperation? source).isSome = true := by
  cases source with
  | integer kind => cases kind <;> rfl
  | object | guid | bytes | time => cases hasRow
  | _ => rfl

theorem HasRow.ne_object (hasRow : HasRow source) : source ≠ .object := by
  rintro rfl
  cases hasRow

/-! ## Paths -/

theorem conversion?_of_unchanged
    (targeted : member.dataType? = some target)
    (unchanged : target = .object ∨ target = source) :
    conversion? source member = some .identity := by
  unfold conversion?
  rw [targeted]
  exact if_pos (by simpa using unchanged)

section Changed

variable
  (targeted : member.dataType? = some target)
  (notObject : target ≠ .object)
  (different : target ≠ source)

include targeted notObject different

theorem conversion?_of_allows (allowed : allows source target = true) :
    conversion? source member = some (.convert target) := by
  unfold conversion?
  simp only [targeted, notObject, different, allowed]
  rfl

theorem conversion?_of_refused (refused : allows source target = false) :
    conversion? source member = none := by
  unfold conversion?
  simp only [targeted, notObject, different, refused]
  rfl

end Changed

end ConversionRules

/-! ## Values on their paths -/

namespace Value

variable {value : Value} {source target : DataType}

theorem runsByTable_convert
    (layouts : List String)
    (typed : value.dataType? = some source)
    (hasRow : ConversionRules.HasRow source)
    (notObject : target ≠ .object)
    (different : target ≠ source) :
    value.RunsByTable source target (value.convert layouts target) := by
  rw [convert_of_changed layouts typed notObject different]
  exact runsByTable_convertTo layouts typed hasRow.isSome_readOperation? hasRow.ne_object
    notObject different.symm

/--
The table of conversions and the conversion of values agree.

The types are to blame for a failure exactly where the table has no path. On the path
that keeps values a value stays as it is. The other path leads to the type of the
member, where a value arrives unless its content is to blame.
-/
theorem convert_follows_conversion?
    {member : MemberType}
    (layouts : List String)
    (typed : value.dataType? = some source)
    (hasRow : ConversionRules.HasRow source)
    (targeted : member.dataType? = some target) :
    ((∃ expected found, value.convert layouts target =
        .error (.typeMismatch expected found)) ↔
      ConversionRules.conversion? source member = none) ∧
    (ConversionRules.conversion? source member = some .identity →
      value.convert layouts target = .ok value) ∧
    ∀ other, ConversionRules.conversion? source member = some (.convert other) →
      other = target ∧
        ((∃ result, value.convert layouts target = .ok result ∧
            result.dataType? = some target) ∨
          ∃ error, value.convert layouts target = .error error ∧ error.OfContent) := by
  by_cases unchanged : target = .object ∨ target = source
  · rw [ConversionRules.conversion?_of_unchanged targeted unchanged,
      convert_of_unchanged layouts typed unchanged]
    simp
  · obtain ⟨notObject, different⟩ := not_or.mp unchanged
    have runs := runsByTable_convert layouts typed hasRow notObject different
    cases allowed : ConversionRules.allows source target with
    | true =>
        rw [ConversionRules.conversion?_of_allows targeted notObject different allowed]
        refine ⟨⟨fun ⟨expected, found, fails⟩ => ?_, nofun⟩, nofun, fun other chosen => ?_⟩
        · cases runs.ofContent allowed _ fails
        · cases chosen
          refine ⟨rfl, ?_⟩
          cases converts : value.convert layouts target with
          | ok result => exact .inl ⟨result, rfl, dataType?_of_convert notObject converts⟩
          | error error => exact .inr ⟨error, rfl, runs.ofContent allowed error converts⟩
    | false =>
        rw [ConversionRules.conversion?_of_refused targeted notObject different allowed]
        obtain ⟨expected, mismatch⟩ := runs.mismatch allowed
        exact ⟨⟨fun _ => rfl, fun _ => ⟨expected, _, mismatch⟩⟩, nofun, nofun⟩

/-- A letter is no truth value, and a text is no letter if it is too long. -/
theorem convert_letter :
    (∃ expected found, (Value.char 'x').convert [] .boolean =
      .error (.typeMismatch expected found)) ∧
    ∃ error, (Value.string "xy").convert [] .char = .error error ∧ error.OfContent := by
  have isLetter : (Value.char 'x').dataType? = some .char := rfl
  have toTruth : (MemberType.primitive .boolean nofun).dataType? = some .boolean := rfl
  have isText : (Value.string "xy").dataType? = some .string := rfl
  have toLetter : (MemberType.primitive .char nofun).dataType? = some .char := rfl
  refine ⟨(convert_follows_conversion? [] isLetter trivial toTruth).1.mpr rfl, ?_⟩
  obtain ⟨_, ⟨result, converts, _⟩ | fails⟩ :=
    (convert_follows_conversion? [] isText trivial toLetter).2.2 .char rfl
  · cases converts
  · exact fails

end Value
end RowBinding
