import RowBinding.Json
import RowBinding.Json.Form

/-!
# Reading JSON documents

The meaning of a written JSON text. A number without point and exponent stays
an integer while it fits 64 bits, and any other number becomes a double. An
escape has to be a character or half of a pair that makes one, and documents
nest at most 127 deep.

A double is computed from the leading digits that fit 64 bits, multiplied by
or divided by a power of ten, so its last bit may differ from the nearest one.
-/

namespace RowBinding

/-- The greatest number that the digits of a JSON number accumulate to. -/
def significandLimit : Nat :=
  18446744073709551615

/-- The greatest exponent that the digits of a JSON exponent accumulate to. -/
def exponentLimit : Nat :=
  2147483647

namespace NumberForm

/-- Take digits onto a number while it stays within a limit. -/
def accumulate (limit : Nat) : Nat → List Char → Nat × List Char
  | value, [] => (value, [])
  | value, digit :: rest =>
      let extended := 10 * value + Text.digitValue digit
      if limit < extended then (value, digit :: rest)
      else accumulate limit extended rest

/-- The double nearest to a power of ten. -/
def doubleTenPow (exponent : Nat) : Float64Value :=
  .ofDecimal false 1 exponent

/-- Divide a double by a power of ten, at most 308 places at a time. -/
def scaleDown (float : Float64Value) (places : Nat) : Float64Value :=
  if places ≤ 308 then float.div (doubleTenPow places)
  else if float.isZero then float
  else scaleDown (float.div (doubleTenPow 308)) (places - 308)
  termination_by places

/-- The double of a significand and a power of ten, if it is finite. -/
def toFloat? (negative : Bool) (significand : Nat) (exponent : Int) :
    Option JsonNumber :=
  let float : Float64Value := .round false significand
  let scaled :=
    if exponent < 0 then scaleDown float exponent.natAbs
    else if exponent ≤ 308 then float.mul (doubleTenPow exponent.natAbs)
    else if float.isZero then float
    else .infinity false
  JsonNumber.ofFloat? (if negative then scaled.neg else scaled)

/-- Keep an exponent within the range of 32 bits. -/
def clampExponent (exponent : Int) : Int :=
  max (-(exponentLimit : Int) - 1) (min exponentLimit exponent)

/--
The number of a form with a point, with an exponent, or with many digits.

An exponent too large to accumulate makes zero of what is zero or has a
negative exponent, and is refused otherwise.
-/
def readFloat? (form : NumberForm) : Option JsonNumber :=
  let (whole, wholeRest) := accumulate significandLimit 0 form.whole
  let (significand, fractionRest) := accumulate significandLimit whole form.fraction
  let places : Int :=
    (wholeRest.length : Int) - (form.fraction.length - fractionRest.length : Nat)
  match form.exponent with
  | none => toFloat? form.negative significand places
  | some (negative, digits) =>
      match accumulate exponentLimit 0 digits with
      | (exponent, []) =>
          toFloat? form.negative significand
            (clampExponent (if negative then places - exponent else places + exponent))
      | (_, _ :: _) =>
          if significand = 0 || negative then
            JsonNumber.ofFloat? (.zero form.negative)
          else
            none

/-- The meaning of a written number. -/
def read? (form : NumberForm) : Option JsonNumber :=
  let magnitude : Int := Text.digitsValue form.whole
  if form.fraction.isEmpty && form.exponent.isNone then
    if form.negative then
      if magnitude = 0 then form.readFloat?
      else
        match JsonNumber.ofInt? (-magnitude) with
        | some number => some number
        | none => form.readFloat?
    else
      match JsonNumber.ofInt? magnitude with
      | some number => some number
      | none => form.readFloat?
  else
    form.readFloat?

end NumberForm

namespace JsonUnit

/-- Whether a code unit is the first half of a pair. -/
def isLeading (code : Nat) : Bool :=
  0xD800 ≤ code && code ≤ 0xDBFF

/-- Whether a code unit is the second half of a pair. -/
def isTrailing (code : Nat) : Bool :=
  0xDC00 ≤ code && code ≤ 0xDFFF

/-- The characters of a written string, if every half has its other half. -/
def chars? : List JsonUnit → Option (List Char)
  | [] => some []
  | .char letter :: rest => (chars? rest).map (letter :: ·)
  | .escape first :: .escape second :: rest =>
      if isLeading first then
        if isTrailing second then
          let code := 0x10000 + (first - 0xD800) * 0x400 + (second - 0xDC00)
          (chars? rest).map (Char.ofNat code :: ·)
        else
          none
      else if isTrailing first then none
      else (chars? (.escape second :: rest)).map (Char.ofNat first :: ·)
  | .escape code :: rest =>
      if isLeading code || isTrailing code then none
      else (chars? rest).map (Char.ofNat code :: ·)

/-- The text of a written string, if it has one. -/
def text? (units : List JsonUnit) : Option String :=
  (chars? units).map String.ofList

end JsonUnit

namespace JsonForm

/-- How deep documents nest. -/
def greatestDepth : Nat :=
  127

mutual

/-- The document that a form means, within a depth of nesting. -/
def toJson? : Nat → JsonForm → Option Json
  | _, .null => some .null
  | _, .bool value => some (.bool value)
  | _, .number form => form.read?.map .number
  | _, .string units => (JsonUnit.text? units).map .string
  | 0, .array _ => none
  | depth + 1, .array items => (itemsToJson? depth items).map .array
  | 0, .object _ => none
  | depth + 1, .object members => (membersToJson? depth members).map Json.ofMembers

/-- The documents that the items of an array mean. -/
def itemsToJson? : Nat → List JsonForm → Option (List Json)
  | _, [] => some []
  | depth, item :: rest => do
      let document ← toJson? depth item
      let documents ← itemsToJson? depth rest
      return document :: documents

/-- The members that the members of an object mean. -/
def membersToJson? :
    Nat → List (List JsonUnit × JsonForm) → Option (List (String × Json))
  | _, [] => some []
  | depth, (units, value) :: rest => do
      let key ← JsonUnit.text? units
      let document ← toJson? depth value
      let members ← membersToJson? depth rest
      return (key, document) :: members

end

end JsonForm

namespace Json

/-- Read a document from a text. -/
def read? (text : String) : Option Json :=
  (JsonForm.read? text).bind (JsonForm.toJson? JsonForm.greatestDepth)

end Json
end RowBinding
