/-!
# Blank characters

The characters with the Unicode property `White_Space`, and the removal of a
blank margin from a text. The table lists code-point ranges, both ends included.
-/

namespace RowBinding
namespace Text

/-- Code-point ranges with the Unicode property `White_Space`. -/
def blankRanges : List (Nat × Nat) :=
  [(0x09, 0x0D), (0x20, 0x20), (0x85, 0x85), (0xA0, 0xA0), (0x1680, 0x1680),
    (0x2000, 0x200A), (0x2028, 0x2029), (0x202F, 0x202F), (0x205F, 0x205F),
    (0x3000, 0x3000)]

/-- Membership of a code point in a list of closed ranges. -/
def inRanges (ranges : List (Nat × Nat)) (code : Nat) : Bool :=
  ranges.any fun range => range.1 ≤ code && code ≤ range.2

/-- Whether a character is white space in the sense of Unicode. -/
def isBlank (char : Char) : Bool :=
  inRanges blankRanges char.toNat

/-- Drop the blank characters in front. -/
def trimLeft (chars : List Char) : List Char :=
  chars.dropWhile isBlank

/-- Drop the blank characters at both ends. -/
def trimChars (chars : List Char) : List Char :=
  (trimLeft (trimLeft chars).reverse).reverse

/-- Drop the blank characters at both ends of a string. -/
def trim (text : String) : String :=
  String.ofList (trimChars text.toList)

@[simp] theorem trimLeft_nil : trimLeft [] = [] := rfl

theorem trimLeft_cons
    (char : Char)
    (rest : List Char) :
    trimLeft (char :: rest) =
      if isBlank char then trimLeft rest else char :: rest := by
  simp only [trimLeft, List.dropWhile_cons]

end Text
end RowBinding
