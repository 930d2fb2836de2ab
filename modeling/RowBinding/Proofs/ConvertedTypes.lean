import RowBinding.Binding.ConversionRules
import RowBinding.Proofs.Outcome

/-!
# Types of converted values

A conversion that succeeds yields a value of the type that it is asked for. A
conversion that the table of conversions allows fails only for the content of a
value: a text that does not read, or a number that is out of range.
-/

namespace RowBinding

/-- The failure is one of the content of a value, and not of its type. -/
inductive ValueError.OfContent : ValueError → Prop
  | parse (text target : String) : OfContent (.parse text target)
  | overflow (value target : String) : OfContent (.overflow value target)

namespace Value

/-! ## The type of what is yielded -/

theorem kind_of_toInteger
    {value : Value}
    {kind : IntegerKind}
    {integer : Integer}
    (converts : value.toInteger kind = .ok integer) :
    integer.kind = kind := by
  obtain ⟨number, _, narrows⟩ := Outcome.bind_eq_ok_iff.mp converts
  unfold narrow at narrows
  split at narrows
  · next narrowed isNarrowed =>
      cases narrows
      exact (Integer.ofInt?_eq_some_iff.mp isNarrowed).1
  · cases narrows

theorem dataType?_of_convertTo
    {layouts : List String}
    {value result : Value}
    {target : DataType}
    (notObject : target ≠ .object)
    (converts : value.convertTo layouts target = .ok result) :
    result.dataType? = some target := by
  cases target with
  | object => exact absurd rfl notObject
  | string =>
      cases converts
      rfl
  | bytes | time => cases converts
  | integer kind =>
      obtain ⟨integer, isInteger, rfl⟩ := Outcome.map_eq_ok_iff.mp converts
      rw [dataType?, kind_of_toInteger isInteger]
  | _ =>
      obtain ⟨_, _, rfl⟩ := Outcome.map_eq_ok_iff.mp converts
      rfl

/-- A conversion into another type than objects yields a value of that type. -/
theorem dataType?_of_convert
    {layouts : List String}
    {value result : Value}
    {target : DataType}
    (notObject : target ≠ .object)
    (converts : value.convert layouts target = .ok result) :
    result.dataType? = some target := by
  unfold convert at converts
  split at converts
  · next unchanged =>
      cases converts
      simpa [notObject] using unchanged
  · split at converts
    · cases converts
    · exact dataType?_of_convertTo notObject converts

/-! ## Failures by the table of conversions -/

/-- A conversion between types that are paired in the table fails only for the content of
a value, and a conversion between other types fails for the types. -/
structure RunsByTable
    {α : Type}
    (value : Value)
    (source target : DataType)
    (outcome : Except ValueError α) : Prop where
  ofContent : ConversionRules.allows source target = true →
    ∀ error, outcome = .error error → error.OfContent
  mismatch : ConversionRules.allows source target = false →
    ∃ expected, outcome = .error (.typeMismatch expected value.typeName)

namespace RunsByTable

variable
  {α β : Type}
  {value : Value}
  {source target : DataType}
  {outcome : Except ValueError α}

theorem of_allows
    (allowed : ConversionRules.allows source target = true)
    (ofContent : ∀ error, outcome = .error error → error.OfContent) :
    value.RunsByTable source target outcome :=
  ⟨fun _ => ofContent, fun refused => by simp [allowed] at refused⟩

theorem of_ok
    (allowed : ConversionRules.allows source target = true)
    (result : α) :
    value.RunsByTable source target (.ok result) :=
  of_allows allowed nofun

theorem of_refused
    {expected : String}
    (refused : ConversionRules.allows source target = false)
    (fails : outcome = .error (.typeMismatch expected value.typeName)) :
    value.RunsByTable source target outcome :=
  ⟨fun allowed => by simp [allowed] at refused, fun _ => ⟨expected, fails⟩⟩

theorem bind
    {next : α → Except ValueError β}
    (runs : value.RunsByTable source target outcome)
    (ofContent : ∀ result error, next result = .error error → error.OfContent) :
    value.RunsByTable source target (outcome >>= next) := by
  refine ⟨fun allowed error fails => ?_, fun refused => ?_⟩
  · cases outcome with
    | error other =>
        cases fails
        exact runs.ofContent allowed error rfl
    | ok result => exact ofContent result error fails
  · obtain ⟨expected, mismatch⟩ := runs.mismatch refused
    rw [mismatch]
    exact ⟨expected, rfl⟩

theorem map
    (runs : value.RunsByTable source target outcome)
    (change : α → β) :
    value.RunsByTable source target (outcome.map change) := by
  refine ⟨fun allowed error fails => ?_, fun refused => ?_⟩
  · exact runs.ofContent allowed error (Outcome.map_eq_error_iff.mp fails)
  · obtain ⟨expected, mismatch⟩ := runs.mismatch refused
    exact ⟨expected, Outcome.map_eq_error_iff.mpr mismatch⟩

end RunsByTable

theorem ofContent_of_floatToInt
    {float : Float64Value}
    {target : DataType}
    {error : ValueError}
    (fails : floatToInt float target = .error error) :
    error.OfContent := by
  unfold floatToInt at fails
  split at fails
  · dsimp only at fails
    split at fails <;> cases fails
    exact .overflow _ _
  · cases fails
    exact .overflow _ _

theorem ofContent_of_narrow
    {number : Int}
    {kind : IntegerKind}
    {error : ValueError}
    (fails : narrow number kind = .error error) :
    error.OfContent := by
  unfold narrow at fails
  split at fails <;> cases fails
  exact .overflow _ _

theorem ofContent_of_decimalOfText
    {text : String}
    {error : ValueError}
    (fails : decimalOfText text = .error error) :
    error.OfContent := by
  unfold decimalOfText at fails
  split at fails <;> cases fails
  exact .parse _ _

section Converters

variable
  {value : Value}
  {source : DataType}

theorem runsByTable_toBool
    (typed : value.dataType? = some source)
    (notObject : source ≠ .object)
    (different : source ≠ .boolean) :
    value.RunsByTable source .boolean value.toBool := by
  cases value with
  | null | json | list | record | quoted => cases typed <;> exact absurd rfl notObject
  | boolean => exact absurd (Option.some.inj typed).symm different
  | integer | float32 | float64 | decimal =>
      cases typed
      exact .of_ok rfl _
  | char | dateTime | guid | bytes =>
      cases typed
      exact .of_refused rfl rfl
  | string text =>
      cases typed
      refine .of_allows rfl fun error fails => ?_
      simp only [toBool] at fails
      split at fails
      · cases fails
      · split at fails <;> cases fails
        exact .parse _ _

theorem runsByTable_toInt
    (typed : value.dataType? = some source)
    (notObject : source ≠ .object)
    (kind : IntegerKind) :
    value.RunsByTable source (.integer kind) (value.toInt (.integer kind)) := by
  cases value with
  | null | json | list | record | quoted => cases typed <;> exact absurd rfl notObject
  | boolean | integer | char | decimal =>
      cases typed
      exact .of_ok rfl _
  | float32 | float64 =>
      cases typed
      exact .of_allows rfl fun _ => ofContent_of_floatToInt
  | string text =>
      cases typed
      refine .of_allows rfl fun error fails => ?_
      simp only [toInt] at fails
      split at fails
      · split at fails <;> cases fails
        exact .parse _ _
      · cases fails
        exact .parse _ _
  | dateTime | guid | bytes =>
      cases typed
      exact .of_refused rfl rfl

theorem runsByTable_toDecimal
    (typed : value.dataType? = some source)
    (notObject : source ≠ .object) :
    value.RunsByTable source .decimal value.toDecimal := by
  cases value with
  | null | json | list | record | quoted => cases typed <;> exact absurd rfl notObject
  | boolean | decimal =>
      cases typed
      exact .of_ok rfl _
  | float32 | float64 | string =>
      cases typed
      exact .of_allows rfl fun _ => ofContent_of_decimalOfText
  | integer number =>
      cases typed
      refine .of_allows rfl fun error fails => ?_
      simp only [toDecimal] at fails
      split at fails <;> cases fails
      exact .overflow _ _
  | char | dateTime | guid | bytes =>
      cases typed
      exact .of_refused rfl rfl

theorem runsByTable_toFloat64
    (typed : value.dataType? = some source)
    (notObject : source ≠ .object) :
    value.RunsByTable source .float64 value.toFloat64 := by
  cases value with
  | null | json | list | record | quoted => cases typed <;> exact absurd rfl notObject
  | boolean | integer | float32 | float64 | decimal =>
      cases typed
      exact .of_ok rfl _
  | string text =>
      cases typed
      refine .of_allows rfl fun error fails => ?_
      simp only [toFloat64] at fails
      split at fails <;> cases fails
      exact .parse _ _
  | char | dateTime | guid | bytes =>
      cases typed
      exact .of_refused rfl rfl

theorem runsByTable_toChar
    (typed : value.dataType? = some source)
    (notObject : source ≠ .object)
    (different : source ≠ .char) :
    value.RunsByTable source .char value.toChar := by
  cases value with
  | null | json | list | record | quoted => cases typed <;> exact absurd rfl notObject
  | char => exact absurd (Option.some.inj typed).symm different
  | string text =>
      cases typed
      refine .of_allows rfl fun error fails => ?_
      simp only [toChar] at fails
      split at fails <;> cases fails
      exact .parse _ _
  | integer number =>
      cases typed
      refine .of_allows rfl fun error fails => ?_
      simp only [toChar] at fails
      split at fails <;> cases fails
      exact .overflow _ _
  | boolean | float32 | float64 | decimal | dateTime | guid | bytes =>
      cases typed
      exact .of_refused rfl rfl

theorem runsByTable_toDateTime
    (layouts : List String)
    (typed : value.dataType? = some source)
    (notObject : source ≠ .object)
    (different : source ≠ .dateTime) :
    value.RunsByTable source .dateTime (value.toDateTime layouts) := by
  cases value with
  | null | json | list | record | quoted => cases typed <;> exact absurd rfl notObject
  | dateTime => exact absurd (Option.some.inj typed).symm different
  | string text =>
      cases typed
      refine .of_allows rfl fun error fails => ?_
      simp only [toDateTime] at fails
      split at fails <;> cases fails
      exact .parse _ _
  | boolean | integer | float32 | float64 | decimal | char | guid | bytes =>
      cases typed
      exact .of_refused rfl rfl

theorem runsByTable_toGuid
    (typed : value.dataType? = some source)
    (notObject : source ≠ .object) :
    value.RunsByTable source .guid value.toGuid := by
  cases value with
  | null | json | list | record | quoted => cases typed <;> exact absurd rfl notObject
  | string text =>
      cases typed
      refine .of_allows rfl fun error fails => ?_
      simp only [toGuid] at fails
      split at fails <;> cases fails
      exact .parse _ _
  | boolean | integer | float32 | float64 | decimal | char | dateTime | guid | bytes =>
      cases typed
      exact .of_refused rfl rfl

/-- A text is made of every value that a column can be read as. -/
theorem runsByTable_toText
    (readable : (ConversionRules.readOperation? source).isSome)
    (notObject : source ≠ .object) :
    value.RunsByTable source .string (.ok (.string value.toText) : Except ValueError Value) := by
  cases source with
  | object => exact absurd rfl notObject
  | guid | bytes | time => cases readable
  | _ => exact .of_ok rfl _

theorem runsByTable_convertTo
    {target : DataType}
    (layouts : List String)
    (typed : value.dataType? = some source)
    (readable : (ConversionRules.readOperation? source).isSome)
    (notObject : source ≠ .object)
    (targetNotObject : target ≠ .object)
    (different : source ≠ target) :
    value.RunsByTable source target (value.convertTo layouts target) := by
  cases target with
  | object => exact absurd rfl targetNotObject
  | string => exact runsByTable_toText readable notObject
  | boolean => exact (runsByTable_toBool typed notObject different).map _
  | integer kind =>
      refine ((runsByTable_toInt typed notObject kind).bind fun _ _ fails => ?_).map _
      exact ofContent_of_narrow fails
  | float32 =>
      -- Every float is made by way of a double, and the table pairs both with the same types.
      obtain ⟨ofContent, mismatch⟩ := runsByTable_toFloat64 typed notObject
      have sameTypes : ConversionRules.allows source .float64 =
          ConversionRules.allows source .float32 := by
        cases source <;> rfl
      rw [sameTypes] at ofContent mismatch
      exact RunsByTable.map ⟨ofContent, mismatch⟩ _
  | float64 => exact (runsByTable_toFloat64 typed notObject).map _
  | decimal => exact (runsByTable_toDecimal typed notObject).map _
  | char => exact (runsByTable_toChar typed notObject different).map _
  | dateTime => exact (runsByTable_toDateTime layouts typed notObject different).map _
  | guid => exact (runsByTable_toGuid typed notObject).map _
  | bytes | time =>
      cases source with
      | object => exact absurd rfl notObject
      | _ => exact .of_refused rfl rfl

theorem convert_of_unchanged
    {target : DataType}
    (layouts : List String)
    (typed : value.dataType? = some source)
    (unchanged : target = .object ∨ target = source) :
    value.convert layouts target = .ok value := by
  rcases unchanged with rfl | rfl
  · exact convert_object layouts value
  · exact convert_of_dataType? layouts typed

theorem convert_of_changed
    {target : DataType}
    (layouts : List String)
    (typed : value.dataType? = some source)
    (notObject : target ≠ .object)
    (different : target ≠ source) :
    value.convert layouts target = value.convertTo layouts target := by
  rw [convert, typed, isNull_of_dataType? typed]
  simp [notObject, different.symm]

/-- An allowed conversion of a value that is no object fails only for its content. -/
theorem ofContent_of_convert
    {layouts : List String}
    {target : DataType}
    {error : ValueError}
    (typed : value.dataType? = some source)
    (notObject : source ≠ .object)
    (allowed : ConversionRules.allows source target = true)
    (fails : value.convert layouts target = .error error) :
    error.OfContent := by
  have readable : (ConversionRules.readOperation? source).isSome := by
    cases source with
    | integer kind => cases kind <;> rfl
    | guid | bytes | time => cases allowed
    | _ => rfl
  by_cases unchanged : target = .object ∨ target = source
  · rw [convert_of_unchanged layouts typed unchanged] at fails
    cases fails
  · obtain ⟨notTarget, different⟩ := not_or.mp unchanged
    rw [convert_of_changed layouts typed notTarget different] at fails
    exact (runsByTable_convertTo layouts typed readable notObject notTarget
      (Ne.symm different)).ofContent allowed error fails

end Converters
end Value
end RowBinding
