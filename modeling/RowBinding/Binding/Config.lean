import RowBinding.DateTime.Layout
import RowBinding.Json.Reading
import RowBinding.Json.Printing

/-!
# Binding configuration

The settings of a compiler: how the names of placeholder columns begin, and
the layouts by which texts are read as points in time.

A placeholder column is named by the stem and the number of a constructor
slot, which ends the name or stands before an underscore.
-/

namespace RowBinding

/-- Settings of a binding compiler. -/
structure BindingConfig where
  placeholderStem : String := "fast_args_index_"
  layouts : List String := DateTime.defaultLayouts
  deriving DecidableEq

namespace BindingConfig

/-- The greatest slot number. -/
def greatestSlot : Nat :=
  18446744073709551615

/-- The slot that the name of a placeholder column denotes. -/
def placeholderSlot? (config : BindingConfig) (column : String) : Option Nat :=
  let stem := config.placeholderStem.toList
  if stem.isPrefixOf column.toList then
    let digits := (column.toList.drop stem.length).takeWhile (· != '_')
    if Text.isDigits digits && Text.digitsValue digits ≤ greatestSlot then
      some (Text.digitsValue digits)
    else
      none
  else
    none

/-- The name of the setting for the stem of placeholders. -/
def stemKey : String :=
  "placeholder_prefix"

/-- The name of the setting for the layouts. -/
def layoutsKey : String :=
  "datetime_formats"

/-- The text of a written string. -/
def stringOf? : JsonForm → Option String
  | .string units => JsonUnit.text? units
  | _ => none

/-- The texts of a written array of strings. -/
def stringsOf? : JsonForm → Option (List String)
  | .array items => items.mapM stringOf?
  | _ => none

/--
Read the settings of a written object; a setting may stand there once.

Settings that are not known are passed over, whatever their values.
-/
def readMembers?
    (stem : Option String)
    (layouts : Option (List String)) :
    List (List JsonUnit × JsonForm) → Option BindingConfig
  | [] =>
      let standard : BindingConfig := {}
      some
        { placeholderStem := stem.getD standard.placeholderStem
          layouts := layouts.getD standard.layouts }
  | (units, form) :: rest =>
      (JsonUnit.text? units).bind fun key =>
        if key = stemKey then
          if stem.isSome then none
          else (stringOf? form).bind fun text => readMembers? (some text) layouts rest
        else if key = layoutsKey then
          if layouts.isSome then none
          else (stringsOf? form).bind fun texts => readMembers? stem (some texts) rest
        else
          readMembers? stem layouts rest

/-- Read a configuration written as an object or as an array of the settings. -/
def ofForm? : JsonForm → Option BindingConfig
  | .object members => readMembers? none none members
  | .array [] => some {}
  | .array [stem] => (stringOf? stem).map fun text => { placeholderStem := text }
  | .array [stem, layouts] =>
      (stringOf? stem).bind fun text =>
        (stringsOf? layouts).map fun texts =>
          { placeholderStem := text, layouts := texts }
  | _ => none

/-- Read a configuration from a JSON text. -/
def ofJson? (text : String) : Option BindingConfig :=
  (JsonForm.read? text).bind ofForm?

/-- The JSON text of a configuration, the stem first. -/
def toJsonText (config : BindingConfig) : String :=
  "\x7b" ++ Json.quote stemKey ++ ":" ++ Json.quote config.placeholderStem ++ "," ++
    Json.quote layoutsKey ++ ":" ++
    (Json.array (config.layouts.map Json.string)).toText ++ "\x7d"

end BindingConfig
end RowBinding
