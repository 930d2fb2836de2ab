import RowBinding.Guid
import RowBinding.Proofs.Text.Parts

/-!
# Identifiers and their texts

The hexadecimal digits of a number denote the number, and the hyphens of a text
in groups can be taken out again. No such text starts like one of the other
forms, so the text of an identifier reads as the identifier.
-/

namespace RowBinding

/-! ## Hexadecimal digits -/

namespace Text

/-- A hexadecimal digit in lower case. -/
def IsHexDigit (char : Char) : Prop :=
  ∃ digit < 16, char = Nat.digitChar digit

theorem hexValue?_digitChar : ∀ digit < 16, hexValue? (Nat.digitChar digit) = some digit := by
  decide

theorem IsHexDigit.isBlank_eq {char : Char} (isDigit : IsHexDigit char) :
    isBlank char = false := by
  obtain ⟨digit, isLess, rfl⟩ := isDigit
  have noneBlank : ∀ digit < 16, isBlank (Nat.digitChar digit) = false := by decide
  exact noneBlank digit isLess

theorem hexDigitsValue?_concat (digits : List Char) (last : Char) :
    hexDigitsValue? (digits ++ [last]) =
      (hexDigitsValue? digits).bind fun value => (hexValue? last).map (16 * value + ·) := by
  rw [hexDigitsValue?, List.foldlM_append]
  exact congrArg _ (funext fun value => bind_pure _)

/-- The digits of a number are one digit, or those of a number and one digit behind them. -/
theorem hexDigits_induction
    {motive : Nat → List Char → Prop}
    (single : ∀ digit < 16, motive digit [Nat.digitChar digit])
    (longer : ∀ number, ∀ digit < 16, motive number (hexDigits number) →
      motive (16 * number + digit) (hexDigits number ++ [Nat.digitChar digit]))
    (number : Nat) :
    motive number (hexDigits number) := by
  induction number using Nat.strong_induction_on with
  | _ number inductionHypothesis =>
      rcases Nat.lt_or_ge number 16 with isDigit | isLonger
      · rw [hexDigits, Nat.toDigits_of_lt_base isDigit]
        exact single number isDigit
      · have isLast : number % 16 < 16 := Nat.mod_lt _ (by decide)
        have extended := longer (number / 16) (number % 16) isLast
          (inductionHypothesis (number / 16) (by omega))
        rw [Nat.div_add_mod] at extended
        rw [hexDigits, Nat.toDigits_of_base_le (by decide) isLonger]
        exact extended

/-- The hexadecimal digits of a number denote the number. -/
theorem hexDigitsValue?_hexDigits (number : Nat) :
    hexDigitsValue? (hexDigits number) = some number := by
  refine hexDigits_induction (motive := fun number digits => hexDigitsValue? digits = some number)
    (fun digit isDigit => ?_) (fun number digit isDigit inductionHypothesis => ?_) number
  · rw [← List.nil_append [_], hexDigitsValue?_concat, hexValue?_digitChar digit isDigit]
    exact congrArg some (Nat.zero_add digit)
  · rw [hexDigitsValue?_concat, inductionHypothesis, Option.bind_some,
      hexValue?_digitChar digit isDigit]
    rfl

theorem isHexDigit_of_mem_hexDigits {number : Nat} :
    ∀ char ∈ hexDigits number, IsHexDigit char := by
  refine hexDigits_induction (motive := fun _ digits => ∀ char ∈ digits, IsHexDigit char)
    (fun digit isDigit => ?_) (fun number digit isDigit inductionHypothesis => ?_) number
  · exact List.forall_mem_singleton.mpr ⟨digit, isDigit, rfl⟩
  · exact List.forall_mem_append.mpr
      ⟨inductionHypothesis, List.forall_mem_singleton.mpr ⟨digit, isDigit, rfl⟩⟩

theorem hexDigitsValue?_padZeros (width : Nat) (digits : List Char) :
    hexDigitsValue? (padZeros width digits) = hexDigitsValue? digits := by
  rw [padZeros]
  induction width - digits.length with
  | zero => rfl
  | succ zeros inductionHypothesis =>
      rw [List.replicate_succ, List.cons_append, ← inductionHypothesis]
      rfl

end Text

namespace Guid

open Text (IsHexDigit)

variable (guid : Guid)

/-! ## Groups -/

@[simp] theorem length_digits : guid.digits.length = 32 := by
  refine Text.length_padZeros ?_
  rw [Text.hexDigits, Nat.length_toDigits_le_iff (by decide) (by decide)]
  exact guid.number.isLt

theorem isHexDigit_of_mem_digits : ∀ char ∈ guid.digits, IsHexDigit char := by
  intro char member
  rcases List.mem_append.mp member with isPadding | isDigit
  · exact ⟨0, by decide, List.eq_of_mem_replicate isPadding⟩
  · exact Text.isHexDigit_of_mem_hexDigits char isDigit

theorem readDigits?_digits : readDigits? guid.digits = some guid := by
  have isNumber : Text.hexDigitsValue? guid.digits = some guid.number.val := by
    rw [digits, Text.hexDigitsValue?_padZeros, Text.hexDigitsValue?_hexDigits]
  rw [readDigits?, if_pos guid.length_digits, isNumber, Option.bind_some,
    dif_pos guid.number.isLt]

theorem length_hyphenate {digits : List Char} (isLength : digits.length = 32) :
    (hyphenate digits).length = 36 := by
  simp [hyphenate, isLength]

theorem append_groups (digits : List Char) :
    digits.take 8 ++ (digits.drop 8).take 4 ++ (digits.drop 12).take 4 ++
      (digits.drop 16).take 4 ++ digits.drop 20 = digits := by
  rw [← List.take_add, ← List.take_add, ← List.take_add, List.take_append_drop]

/-- Digits in groups read like the digits alone. -/
theorem readGroups?_hyphenate {digits : List Char} (isLength : digits.length = 32) :
    readGroups? (hyphenate digits) = readDigits? digits := by
  have hasFirst : (digits.take 8).length = 8 := by simp [isLength]
  have hasGroup {count : Nat} (isBefore : count ≤ 16) :
      ((digits.drop count).take 4).length = 4 := by
    rw [List.length_take, List.length_drop, isLength]
    omega
  have isText : hyphenate digits = digits.take 8 ++ '-' :: ((digits.drop 8).take 4 ++
      '-' :: ((digits.drop 12).take 4 ++ '-' :: ((digits.drop 16).take 4 ++
        '-' :: digits.drop 20))) := by
    simp [hyphenate]
  have isFirst := congrArg (List.take 8) isText
  rw [List.take_left' hasFirst] at isFirst
  have behindFirst := congrArg (List.drop 9) isText
  rw [Text.drop_append_separator hasFirst] at behindFirst
  have behindSecond := congrArg (List.drop 5) behindFirst
  rw [Text.drop_append_separator (hasGroup (by decide)), List.drop_drop] at behindSecond
  have behindThird := congrArg (List.drop 5) behindSecond
  rw [Text.drop_append_separator (hasGroup (by decide)), List.drop_drop] at behindThird
  have behindFourth := congrArg (List.drop 5) behindThird
  rw [Text.drop_append_separator (hasGroup (by decide)), List.drop_drop] at behindFourth
  have areDigits : (hyphenate digits).take 8 ++ ((hyphenate digits).drop 9).take 4 ++
      ((hyphenate digits).drop 14).take 4 ++ ((hyphenate digits).drop 19).take 4 ++
        (hyphenate digits).drop 24 = digits := by
    rw [isFirst, behindFirst, List.take_left' (hasGroup (by decide)), behindSecond,
      List.take_left' (hasGroup (by decide)), behindThird,
      List.take_left' (hasGroup (by decide)), behindFourth, append_groups]
  rw [readGroups?, areDigits, length_hyphenate isLength]
  simp

/-! ## Texts -/

theorem isHexDigit_or_of_mem_toText :
    ∀ char ∈ guid.toText.toList, IsHexDigit char ∨ char = '-' := by
  intro char member
  have ofDigits (isDigit : char ∈ guid.digits) : IsHexDigit char ∨ char = '-' :=
    .inl (guid.isHexDigit_of_mem_digits char isDigit)
  have ofGroup {count : Nat} (isGroup : char ∈ (guid.digits.drop count).take 4) :=
    ofDigits (List.mem_of_mem_drop (List.mem_of_mem_take isGroup))
  rw [toText, String.toList_ofList, hyphenate] at member
  simp only [List.mem_append, List.mem_cons] at member
  rcases member with ((((isFirst | rfl | isGroup) | rfl | isGroup) | rfl | isGroup) | rfl | isLast)
  · exact ofDigits (List.mem_of_mem_take isFirst)
  · exact .inr rfl
  · exact ofGroup isGroup
  · exact .inr rfl
  · exact ofGroup isGroup
  · exact .inr rfl
  · exact ofGroup isGroup
  · exact .inr rfl
  · exact ofDigits (List.mem_of_mem_drop isLast)

theorem trimChars_toText : Text.trimChars guid.toText.toList = guid.toText.toList := by
  refine Text.trimChars_eq_self fun char member => ?_
  rcases guid.isHexDigit_or_of_mem_toText char member with isDigit | rfl
  · exact isDigit.isBlank_eq
  · decide

theorem exists_toText_eq_cons :
    ∃ first rest, guid.toText.toList = first :: rest ∧ IsHexDigit first := by
  have isLonger := guid.length_digits
  cases areDigits : guid.digits with
  | nil =>
      rw [areDigits] at isLonger
      cases isLonger
  | cons first rest =>
      have isDigit := guid.isHexDigit_of_mem_digits first (areDigits ▸ List.mem_cons_self)
      refine ⟨first, (hyphenate guid.digits).tail, ?_, isDigit⟩
      rw [toText, String.toList_ofList, areDigits]
      rfl

/-- The text of an identifier reads as the identifier. -/
theorem read?_toText : read? guid.toText.toList = some guid := by
  obtain ⟨first, rest, isText, digit, isLess, rfl⟩ := guid.exists_toText_eq_cons
  have noBrace : ∀ digit < 16, Nat.digitChar digit ≠ '\x7b' := by decide
  have noMark : ∀ digit < 16, (Nat.digitChar digit).toLower ≠ 'u' := by decide
  have isGrouped : guid.toText.toList.length = 36 := by
    rw [toText, String.toList_ofList, length_hyphenate guid.length_digits]
  unfold read?
  split
  · next behind isBrace =>
      rw [isText] at isBrace
      exact absurd (List.cons.inj isBrace).1 (noBrace digit isLess)
  · rw [if_neg, if_pos isGrouped, toText, String.toList_ofList,
      readGroups?_hyphenate guid.length_digits, readDigits?_digits]
    intro isMark
    rw [isText] at isMark
    exact noMark digit isLess (List.cons.inj isMark).1

end Guid
end RowBinding
