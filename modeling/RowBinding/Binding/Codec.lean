import RowBinding.Json.Reading
import RowBinding.Target.MemberType
import RowBinding.Text.Blank

/-!
# Codecs for JSON members

A codec turns the text of a column into the value of a JSON member. A blank
text stands for nothing, and what counts as blank is the codec's affair.
-/

namespace RowBinding

/-- How the texts of JSON members are read. -/
structure JsonCodec where
  /-- The value of a text for a member type, or the reason why it has none. -/
  decode : String → MemberType → Except String Value
  /-- Whether a text stands for nothing. -/
  isBlank : String → Bool

/--
The codec that reads JSON documents, with white space alone as blank.

What it says of a text that is no document is given.
-/
def JsonCodec.standard (explain : String → String := fun _ => "") : JsonCodec where
  decode text _ :=
    match Json.read? text with
    | some document => .ok (.json document)
    | none => .error (explain text)
  isBlank text := (Text.trimChars text.toList).isEmpty

end RowBinding
