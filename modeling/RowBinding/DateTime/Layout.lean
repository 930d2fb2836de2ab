import RowBinding.DateTime.Fields
import RowBinding.Text.Blank

/-!
# Layouts of dates and times

A layout is a pattern of fields, literal characters and gaps that a text is
read by from front to back. A field may stand behind white space, a gap takes
any amount of white space, and the whole text has to be used up.

A percent sign with a mark stands for a field, or for a sequence of elements
that has a mark of its own. Names of months and weekdays are English, and the
case of their letters does not matter.
-/

namespace RowBinding

/-- The fields that are numbers without a sign. -/
inductive NumberField
  | century
  | yearOfCentury
  | isoYearOfCentury
  | quarter
  | month
  | day
  | ordinal
  | weekFromSunday
  | weekFromMonday
  | isoWeek
  /-- A weekday counted from zero, which is Sunday. -/
  | weekdayFromSunday
  /-- A weekday counted from one, which is Monday. -/
  | weekdayFromMonday
  | hour
  | hourOfHalf
  | minute
  | second
  | nanosecond
  deriving DecidableEq

/-- Offsets of time zones, by what may stand in place of hours and minutes. -/
inductive OffsetForm
  /-- Hours and minutes with a sign. -/
  | signed
  /-- Also the letter Z, or hours alone at the end of the text. -/
  | lenient
  /-- Also the letter Z, or the letters UTC. -/
  | universal
  deriving DecidableEq

/-- One element of a layout. -/
inductive LayoutItem
  | literal (char : Char)
  | gap
  | year
  | isoYear
  | number (field : NumberField)
  | timestamp
  /-- The first three letters of a month, and the others too if the name may be in full. -/
  | monthName (inFull : Bool)
  /-- The first three letters of a weekday, and the others too if the name may be in full. -/
  | weekdayName (inFull : Bool)
  /-- The letters AM or PM. -/
  | halfDay
  /-- A fraction of a second behind a point, if there is a point. -/
  | fraction
  /-- A fraction of a second in so many digits behind a point, if there is a point. -/
  | pointed (digits : Nat)
  /-- A fraction of a second in so many digits. -/
  | places (digits : Nat)
  /-- Characters up to white space. -/
  | zoneName
  | offset (form : OffsetForm)
  /-- The letter T or a blank. -/
  | separator
  | unknown
  deriving DecidableEq

namespace NumberField

open TimeFields (agree?)

/-- The greatest number of digits of a field. -/
def width : NumberField → Nat
  | .quarter | .weekdayFromSunday | .weekdayFromMonday => 1
  | .ordinal => 3
  | .nanosecond => 9
  | _ => 2

/-- The least and the greatest value of a field. -/
def bounds : NumberField → Nat × Nat
  | .century | .yearOfCentury | .isoYearOfCentury => (0, 99)
  | .quarter => (1, 4)
  | .month | .hourOfHalf => (1, 12)
  | .day => (1, 31)
  | .ordinal => (1, 366)
  | .weekFromSunday | .weekFromMonday => (0, 53)
  | .isoWeek => (1, 53)
  | .weekdayFromSunday => (0, 6)
  | .weekdayFromMonday => (1, 7)
  | .hour => (0, 23)
  | .minute => (0, 59)
  | .second => (0, 60)
  | .nanosecond => (0, 999999999)

/-- Read a value into its field. -/
def give? (field : NumberField) (fields : TimeFields) (value : Nat) : Option TimeFields :=
  match field with
  | .century => do
      let read ← agree? fields.year.century value
      return { fields with year := { fields.year with century := read } }
  | .yearOfCentury => do
      let read ← agree? fields.year.yearOfCentury value
      return { fields with year := { fields.year with yearOfCentury := read } }
  | .isoYearOfCentury => do
      let read ← agree? fields.isoYear.yearOfCentury value
      return { fields with isoYear := { fields.isoYear with yearOfCentury := read } }
  | .quarter => do
      let read ← agree? fields.quarter value
      return { fields with quarter := read }
  | .month => do
      let read ← agree? fields.month value
      return { fields with month := read }
  | .day => do
      let read ← agree? fields.day value
      return { fields with day := read }
  | .ordinal => do
      let read ← agree? fields.ordinal value
      return { fields with ordinal := read }
  | .weekFromSunday => do
      let read ← agree? fields.weekFromSunday value
      return { fields with weekFromSunday := read }
  | .weekFromMonday => do
      let read ← agree? fields.weekFromMonday value
      return { fields with weekFromMonday := read }
  | .isoWeek => do
      let read ← agree? fields.isoWeek value
      return { fields with isoWeek := read }
  | .weekdayFromSunday => do
      let read ← agree? fields.weekday ((value + 6) % 7)
      return { fields with weekday := read }
  | .weekdayFromMonday => do
      let read ← agree? fields.weekday (value - 1)
      return { fields with weekday := read }
  | .hour => fields.giveHour? value
  | .hourOfHalf => do
      let read ← agree? fields.hourOfHalf (value % 12)
      return { fields with hourOfHalf := read }
  | .minute => do
      let read ← agree? fields.minute value
      return { fields with minute := read }
  | .second => do
      let read ← agree? fields.second value
      return { fields with second := read }
  | .nanosecond => fields.giveNanosecond? value

end NumberField

namespace LayoutItem

/-! ## Patterns -/

/-- Hour, minute and second with colons between them. -/
def clock : List LayoutItem :=
  [.number .hour, .literal ':', .number .minute, .literal ':', .number .second]

/-- Month, day and year of the century with slashes between them. -/
def slashed : List LayoutItem :=
  [.number .month, .literal '/', .number .day, .literal '/', .number .yearOfCentury]

/-- The elements that a mark behind a percent sign stands for. -/
def ofMark : Char → List LayoutItem
  | 'Y' => [.year]
  | 'C' => [.number .century]
  | 'y' => [.number .yearOfCentury]
  | 'G' => [.isoYear]
  | 'g' => [.number .isoYearOfCentury]
  | 'q' => [.number .quarter]
  | 'm' => [.number .month]
  | 'b' | 'h' => [.monthName false]
  | 'B' => [.monthName true]
  | 'd' | 'e' => [.number .day]
  | 'j' => [.number .ordinal]
  | 'U' => [.number .weekFromSunday]
  | 'W' => [.number .weekFromMonday]
  | 'V' => [.number .isoWeek]
  | 'a' => [.weekdayName false]
  | 'A' => [.weekdayName true]
  | 'w' => [.number .weekdayFromSunday]
  | 'u' => [.number .weekdayFromMonday]
  | 'D' | 'x' => slashed
  | 'F' => [.year, .literal '-', .number .month, .literal '-', .number .day]
  | 'v' => [.number .day, .literal '-', .monthName false, .literal '-', .year]
  | 'H' | 'k' => [.number .hour]
  | 'I' | 'l' => [.number .hourOfHalf]
  | 'P' | 'p' => [.halfDay]
  | 'M' => [.number .minute]
  | 'S' => [.number .second]
  | 'f' => [.number .nanosecond]
  | 'R' => [.number .hour, .literal ':', .number .minute]
  | 'T' | 'X' => clock
  | 'r' =>
      [.number .hourOfHalf, .literal ':', .number .minute, .literal ':', .number .second,
        .gap, .halfDay]
  | 'c' =>
      [.weekdayName false, .gap, .monthName false, .gap, .number .day, .gap] ++ clock ++
        [.gap, .year]
  | '+' =>
      [.year, .gap, .literal '-', .number .month, .gap, .literal '-', .number .day, .separator,
        .number .hour, .gap, .literal ':', .number .minute, .gap, .literal ':', .number .second,
        .fraction, .gap, .offset .universal]
  | 's' => [.timestamp]
  | 'Z' => [.zoneName]
  | 'z' => [.offset .signed]
  | 't' | 'n' => [.gap]
  | '%' => [.literal '%']
  | _ => [.unknown]

/-- The elements of a mark with a sign for its padding, which single numbers alone have. -/
def ofPaddedMark (mark : Char) : List LayoutItem :=
  match ofMark mark with
  | [.year] => [.year]
  | [.isoYear] => [.isoYear]
  | [.timestamp] => [.timestamp]
  | [.number field] => [.number field]
  | _ => [.unknown]

/-- The elements of what stands behind a percent sign, and how many characters it takes. -/
def specifier : List Char → List LayoutItem × Nat
  | '.' :: 'f' :: _ => ([.fraction], 2)
  | '.' :: '3' :: 'f' :: _ => ([.pointed 3], 3)
  | '.' :: '6' :: 'f' :: _ => ([.pointed 6], 3)
  | '.' :: '9' :: 'f' :: _ => ([.pointed 9], 3)
  | '3' :: 'f' :: _ => ([.places 3], 2)
  | '6' :: 'f' :: _ => ([.places 6], 2)
  | '9' :: 'f' :: _ => ([.places 9], 2)
  | ':' :: 'z' :: _ => ([.offset .signed], 2)
  | ':' :: ':' :: 'z' :: _ => ([.offset .signed], 3)
  | ':' :: ':' :: ':' :: 'z' :: _ => ([.offset .signed], 4)
  | '#' :: 'z' :: _ => ([.offset .lenient], 2)
  | '-' :: mark :: _ | '_' :: mark :: _ | '0' :: mark :: _ => (ofPaddedMark mark, 2)
  | mark :: _ => (ofMark mark, 1)
  | [] => ([.unknown], 0)

/-- The elements of a layout text behind a number of characters that have been taken. -/
def behind : Nat → List Char → List LayoutItem
  | _, [] => []
  | taken + 1, _ :: rest => behind taken rest
  | 0, '%' :: rest => (specifier rest).1 ++ behind (specifier rest).2 rest
  | 0, char :: rest =>
      (if Text.isBlank char then .gap else .literal char) :: behind 0 rest

/-- The elements of a layout text. -/
def ofPattern (pattern : List Char) : List LayoutItem :=
  behind 0 pattern

/-! ## Reading -/

/-- Read a number of at most a given count of digits, and at least one. -/
def readNumber? (width : Nat) (chars : List Char) : Option (Nat × List Char) :=
  let digits := (chars.take width).takeWhile Char.isDigit
  if digits.isEmpty then none
  else some (Text.digitsValue digits, chars.drop digits.length)

/-- Read a year: at most four digits, or a sign and any number of digits. -/
def readYear? (chars : List Char) : Option (Int × List Char) :=
  match chars with
  | '-' :: rest =>
      (readNumber? rest.length rest).map fun (value, behind) => (-(value : Int), behind)
  | '+' :: rest =>
      (readNumber? rest.length rest).map fun (value, behind) => ((value : Int), behind)
  | _ => (readNumber? 4 chars).map fun (value, behind) => ((value : Int), behind)

/-- Read a number of so many digits whose value lies between two bounds. -/
def readField?
    (width least greatest : Nat)
    (chars : List Char) : Option (Nat × List Char) :=
  (readNumber? width (Text.trimLeft chars)).bind fun (value, rest) =>
    if least ≤ value && value ≤ greatest then some (value, rest) else none

/-- Read a fraction of a second in nanoseconds; digits beyond nine are dropped. -/
def readFraction? (chars : List Char) : Option (Nat × List Char) :=
  let digits := chars.takeWhile Char.isDigit
  let kept := digits.take 9
  if digits.isEmpty then none
  else
    some (Text.digitsValue kept * Nat.pow 10 (9 - kept.length),
      chars.dropWhile Char.isDigit)

/-- Read a fraction of a second in so many digits, in nanoseconds. -/
def readPlaces? (digits : Nat) (chars : List Char) : Option (Nat × List Char) :=
  let taken := chars.take digits
  if taken.length = digits && taken.all Char.isDigit then
    some (Text.digitsValue taken * Nat.pow 10 (9 - digits), chars.drop digits)
  else
    none

/-- Take a word off the front of a text, in any case. -/
def takeWord? (word : String) (chars : List Char) : Option (List Char) :=
  if Text.equalIgnoringCase (String.ofList (chars.take word.length)) word then
    some (chars.drop word.length)
  else
    none

/-- Read a name by its place in a list, each name cut into its first letters and the others. -/
def readName?
    (names : List (String × String))
    (inFull : Bool)
    (chars : List Char) : Option (Nat × List Char) :=
  names.zipIdx.findSome? fun ((first, others), place) =>
    (takeWord? first chars).map fun rest =>
      (place, if inFull then (takeWord? others rest).getD rest else rest)

/-- The names of the months. -/
def months : List (String × String) :=
  [("jan", "uary"), ("feb", "ruary"), ("mar", "ch"), ("apr", "il"), ("may", ""), ("jun", "e"),
    ("jul", "y"), ("aug", "ust"), ("sep", "tember"), ("oct", "ober"), ("nov", "ember"),
    ("dec", "ember")]

/-- The names of the weekdays. -/
def weekdays : List (String × String) :=
  [("mon", "day"), ("tue", "sday"), ("wed", "nesday"), ("thu", "rsday"), ("fri", "day"),
    ("sat", "urday"), ("sun", "day")]

/-- Read two digits whose value is at most a bound. -/
def readPair? (greatest : Nat) : List Char → Option (Nat × List Char)
  | first :: second :: rest =>
      let value := Text.digitsValue [first, second]
      if first.isDigit && second.isDigit && value ≤ greatest then some (value, rest) else none
  | _ => none

/-- Read hours and minutes with a sign in front, as seconds. -/
def readHours? (form : OffsetForm) (chars : List Char) : Option (Int × List Char) := do
  let sign :: rest := chars | none
  let factor : Int ←
    if sign = '+' then some 1
    -- The minus sign has a character of its own beside the hyphen.
    else if sign = '-' || sign = '\u2212' then some (-1)
    else none
  let (hours, rest) ← readPair? 99 rest
  let rest := rest.dropWhile fun char => char = ':' || Text.isBlank char
  if form = .lenient && rest.isEmpty then
    return (factor * (hours * 3600), [])
  else
    let (minutes, rest) ← readPair? 59 rest
    return (factor * (hours * 3600 + minutes * 60), rest)

/-- Read the offset of a time zone in seconds. -/
def readOffset? (form : OffsetForm) (chars : List Char) : Option (Int × List Char) :=
  let zulu := if form = .signed then none else takeWord? "z" chars
  let universal := if form = .universal then takeWord? "utc" chars else none
  match universal <|> zulu with
  | some rest => some (0, rest)
  | none => readHours? form chars

/-- Read one element of a layout into the fields. -/
def read?
    (item : LayoutItem)
    (fields : TimeFields)
    (chars : List Char) : Option (TimeFields × List Char) :=
  match item with
  | .literal expected =>
      match chars with
      | char :: rest => if char = expected then some (fields, rest) else none
      | [] => none
  | .gap => some (fields, Text.trimLeft chars)
  | .year => do
      let (value, rest) ← readYear? (Text.trimLeft chars)
      return (← fields.giveYear? value, rest)
  | .isoYear => do
      let (value, rest) ← readYear? (Text.trimLeft chars)
      let field ← TimeFields.agree? fields.isoYear.year value
      return ({ fields with isoYear := { fields.isoYear with year := field } }, rest)
  | .number field => do
      let (value, rest) ← readField? field.width field.bounds.1 field.bounds.2 chars
      return (← field.give? fields value, rest)
  | .timestamp => do
      let (value, rest) ← readField? chars.length 0 9223372036854775807 chars
      let field ← TimeFields.agree? fields.timestamp value
      return ({ fields with timestamp := field }, rest)
  | .monthName inFull => do
      let (place, rest) ← readName? months inFull chars
      return (← NumberField.give? .month fields (place + 1), rest)
  | .weekdayName inFull => do
      let (place, rest) ← readName? weekdays inFull chars
      return (← NumberField.give? .weekdayFromMonday fields (place + 1), rest)
  | .halfDay => do
      let (place, rest) ← readName? [("am", ""), ("pm", "")] false chars
      let field ← TimeFields.agree? fields.halfDay place
      return ({ fields with halfDay := field }, rest)
  | .fraction =>
      match chars with
      | '.' :: behind => do
          let (value, rest) ← readFraction? behind
          return (← fields.giveNanosecond? value, rest)
      | _ => some (fields, chars)
  | .pointed digits =>
      match chars with
      | '.' :: behind => do
          let (value, rest) ← readPlaces? digits behind
          return (← fields.giveNanosecond? value, rest)
      | _ => some (fields, chars)
  | .places digits => do
      let (value, rest) ← readPlaces? digits chars
      return (← fields.giveNanosecond? value, rest)
  | .zoneName => some (fields, chars.dropWhile fun char => !Text.isBlank char)
  | .offset form => do
      let (value, rest) ← readOffset? form (Text.trimLeft chars)
      let field ← TimeFields.agree? fields.offset value
      return ({ fields with offset := field }, rest)
  | .separator =>
      match chars with
      | char :: rest => if char.toLower = 't' || char = ' ' then some (fields, rest) else none
      | [] => none
  | .unknown => none

/-- Read a whole text by the elements of a layout. -/
def readAll? : List LayoutItem → TimeFields → List Char → Option TimeFields
  | [], fields, [] => some fields
  | [], _, _ :: _ => none
  | item :: items, fields, chars =>
      (item.read? fields chars).bind fun (fields, rest) => readAll? items fields rest

end LayoutItem

namespace DateTime

/-- Read a point in time by one layout. -/
def readBy? (chars : List Char) (layout : String) : Option DateTime :=
  (LayoutItem.readAll? (LayoutItem.ofPattern layout.toList) {} chars).bind
    TimeFields.resolve?

/-- Read a point in time by the first layout that fits. -/
def read? (layouts : List String) (chars : List Char) : Option DateTime :=
  layouts.findSome? (readBy? chars)

/-- The layouts used where none are given. -/
def defaultLayouts : List String :=
  ["%Y-%m-%d %H:%M:%S%.f", "%Y-%m-%dT%H:%M:%S%.f", "%Y-%m-%d"]

end DateTime
end RowBinding
