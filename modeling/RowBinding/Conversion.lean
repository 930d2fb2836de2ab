import RowBinding.DateTime.Layout
import RowBinding.Number.Decimal.Reading
import RowBinding.Number.Decimal.ToFloat
import RowBinding.Value.Text

/-!
# Conversion of values

One value becomes a value of another type, or the conversion says why not.
Text that does not read, a number out of the range of its target, a null and a
pair of types without a conversion are four different failures.

Conversions never wrap and never truncate: a number with a fraction is rounded
to the nearest integer, a half to the even one, before its range is checked.
-/

namespace RowBinding

/-- Why a value cannot be converted. -/
inductive ValueError
  /-- There is no conversion between the two types. -/
  | typeMismatch (expected found : String)
  /-- The number does not fit the target type. -/
  | overflow (value target : String)
  /-- The text does not read as a value of the target type. -/
  | parse (text target : String)
  /-- Null has no conversion to the target type. -/
  | unexpectedNull (target : String)
  /-- The JSON document is malformed or not of the wanted shape. -/
  | json
  deriving DecidableEq

namespace ValueError

/-- The name of a cause of failure. -/
def name : ValueError → String
  | .typeMismatch _ _ => "TypeMismatch"
  | .overflow _ _ => "Overflow"
  | .parse _ _ => "Parse"
  | .unexpectedNull _ => "UnexpectedNull"
  | .json => "Json"

/-- The wording of a failed conversion. -/
def message : ValueError → String
  | .typeMismatch expected found =>
      "cannot convert " ++ found ++ " value to " ++ expected
  | .overflow value target =>
      "value " ++ value ++ " is out of range for " ++ target
  | .parse text target => "text '" ++ text ++ "' is not a valid " ++ target
  | .unexpectedNull target => "null value cannot be converted to " ++ target
  | .json => "invalid JSON payload: not a document of this type"

end ValueError

namespace Value

/-- The failure of a conversion that does not exist. -/
def mismatch (value : Value) (target : DataType) : ValueError :=
  .typeMismatch target.name value.typeName

/-- The failure of an integer that is out of range. -/
def integerOverflow (value : Int) (target : DataType) : ValueError :=
  .overflow (Text.ofInt value) target.name

/-- Text of a float or a decimal without zeros at the end; no other value has one. -/
def numericText? : Value → Option String
  | .float32 value => some value.toText
  | .float64 value => some value.toText
  | .decimal value => some value.normalize.toText
  | _ => none

/-- The truth value of a value: whether a number is not zero, or what a text says. -/
def toBool (value : Value) : Except ValueError Bool :=
  match value with
  | .boolean value => .ok value
  | .integer value => .ok (value.value != 0)
  | .float32 value => .ok !value.isZero
  | .float64 value => .ok !value.isZero
  | .decimal value => .ok !value.isZero
  | .string text =>
      if Text.equalIgnoringCase (Text.trim text) "true" then .ok true
      else if Text.equalIgnoringCase (Text.trim text) "false" then .ok false
      else .error (.parse text DataType.boolean.name)
  | _ => .error (value.mismatch .boolean)

/-- Magnitudes from here on are too large for a float to be taken as an integer. -/
def floatIntegerLimit : Nat :=
  99999999999999997748809823456034029568

/-- The integer nearest to a double, if it is not too large. -/
def floatToInt (float : Float64Value) (target : DataType) : Except ValueError Int :=
  match float.toRat? with
  | some exact =>
      let rounded := Rounding.nearestEven exact
      if rounded.natAbs < floatIntegerLimit then .ok rounded
      else .error (.overflow float.toText target.name)
  | none => .error (.overflow float.toText target.name)

/-- The integers that a text can denote. -/
def IsTextInteger (value : Int) : Prop :=
  -170141183460469231731687303715884105728 ≤ value ∧
    value ≤ 170141183460469231731687303715884105727

instance (value : Int) : Decidable (IsTextInteger value) :=
  inferInstanceAs (Decidable (_ ∧ _))

/-- The integer that a value denotes or is nearest to. -/
def toInt (value : Value) (target : DataType) : Except ValueError Int :=
  match value with
  | .boolean value => .ok (if value then 1 else 0)
  | .integer value => .ok value.value
  | .char value => .ok value.toNat
  | .float32 value => floatToInt (value.toFormat binary64) target
  | .float64 value => floatToInt value target
  | .decimal value => .ok value.toNearestInt
  | .string text =>
      match Text.readInt? (Text.trimChars text.toList) with
      | some number =>
          if IsTextInteger number then .ok number
          else .error (.parse text target.name)
      | none => .error (.parse text target.name)
  | _ => .error (value.mismatch target)

/-- An integer as one of a kind, if it is in range. -/
def narrow (number : Int) (kind : IntegerKind) : Except ValueError Integer :=
  match Integer.ofInt? kind number with
  | some narrowed => .ok narrowed
  | none => .error (integerOverflow number (.integer kind))

/-- The integer of a kind that a value denotes or is nearest to. -/
def toInteger (value : Value) (kind : IntegerKind) : Except ValueError Integer := do
  narrow (← value.toInt (.integer kind)) kind

/-- Read a decimal from a text. -/
def decimalOfText (text : String) : Except ValueError Decimal :=
  match Decimal.read? (Text.trimChars text.toList) with
  | some number => .ok number
  | none => .error (.parse text DataType.decimal.name)

/-- The decimal that a value denotes; a float goes through its text. -/
def toDecimal (value : Value) : Except ValueError Decimal :=
  match value with
  | .decimal value => .ok value
  | .boolean value => .ok (if value then Decimal.one else Decimal.zero)
  | .float32 value => decimalOfText value.toText
  | .float64 value => decimalOfText value.toText
  | .string text => decimalOfText text
  | .integer value =>
      match Decimal.ofInt? value.value with
      | some number => .ok number
      | none => .error (integerOverflow value.value .decimal)
  | _ => .error (value.mismatch .decimal)

/-- The point in time that a value denotes, by the layouts for texts. -/
def toDateTime (layouts : List String) (value : Value) : Except ValueError DateTime :=
  match value with
  | .dateTime value => .ok value
  | .string text =>
      match DateTime.read? layouts (Text.trimChars text.toList) with
      | some moment => .ok moment
      | none => .error (.parse text DataType.dateTime.name)
  | _ => .error (value.mismatch .dateTime)

/-- The double that a value denotes or is nearest to. -/
def toFloat64 (value : Value) : Except ValueError Float64Value :=
  match value with
  | .float32 value => .ok (value.toFormat binary64)
  | .float64 value => .ok value
  | .boolean value => .ok (if value then .ofInt 1 else .ofInt 0)
  | .decimal value => .ok value.toFloat64
  | .integer value => .ok (.ofInt value.value)
  | .string text =>
      match Floating.read? (Text.trimChars text.toList) with
      | some float => .ok float
      | none => .error (.parse text DataType.float64.name)
  | _ => .error (value.mismatch .float64)

/-- Whether a number is the code point of a character. -/
def isCodePoint (number : Int) : Bool :=
  (0 ≤ number && number < 0xD800) || (0xDFFF < number && number < 0x110000)

/-- The character that a value is, that is its only one, or whose number it is. -/
def toChar (value : Value) : Except ValueError Char :=
  match value with
  | .char value => .ok value
  | .string text =>
      match text.toList with
      | [letter] => .ok letter
      | _ => .error (.parse text DataType.char.name)
  | .integer value =>
      if isCodePoint value.value then .ok (Char.ofNat value.value.toNat)
      else .error (integerOverflow value.value .char)
  | _ => .error (value.mismatch .char)

/-- The identifier that a text denotes. -/
def toGuid (value : Value) : Except ValueError Guid :=
  match value with
  | .string text =>
      match Guid.read? (Text.trimChars text.toList) with
      | some identifier => .ok identifier
      | none => .error (.parse text DataType.guid.name)
  | _ => .error (value.mismatch .guid)

/-- Convert a value that is not null and not yet of the target type. -/
def convertTo (layouts : List String) (value : Value) :
    DataType → Except ValueError Value
  | .string => .ok (.string value.toText)
  | .boolean => value.toBool.map .boolean
  | .float32 => value.toFloat64.map fun float => .float32 (float.toFormat binary32)
  | .float64 => value.toFloat64.map .float64
  | .decimal => value.toDecimal.map .decimal
  | .char => value.toChar.map .char
  | .dateTime => (value.toDateTime layouts).map .dateTime
  | .guid => value.toGuid.map .guid
  | .integer kind => (value.toInteger kind).map .integer
  | .object => .ok value
  | .bytes => .error (value.mismatch .bytes)
  | .time => .error (value.mismatch .time)

/--
Convert a value into a value of a type.

Every value is an object, and a value of the target type stays as it is.
-/
def convert
    (layouts : List String)
    (value : Value)
    (target : DataType) : Except ValueError Value :=
  if target = .object || value.dataType? = some target then .ok value
  else if value.isNull then .error (.unexpectedNull target.name)
  else value.convertTo layouts target

@[simp] theorem convert_object (layouts : List String) (value : Value) :
    value.convert layouts .object = .ok value := rfl

theorem convert_of_dataType?
    {value : Value}
    {target : DataType}
    (layouts : List String)
    (same : value.dataType? = some target) :
    value.convert layouts target = .ok value := by
  simp [convert, same]

end Value
end RowBinding
