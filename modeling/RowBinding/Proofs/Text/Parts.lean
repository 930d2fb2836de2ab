import Mathlib.Data.String.Basic
import RowBinding.Proofs.Text.Digits

/-!
# Texts of several parts

Where a part of a text ends can be told in three ways: a separator follows that
does not occur in the part, the length of the part in bytes is known, or the
part is a number and no digit follows. In each case the text determines the
part and what comes behind it.
-/

namespace RowBinding
namespace Text

/-- A part without the separator ends where the separator occurs first. -/
theorem append_separator_inj
    {separator : Char}
    {part other : List Char} :
    ∀ {rest otherRest : List Char},
      separator ∉ part → separator ∉ other →
        part ++ separator :: rest = other ++ separator :: otherRest →
          part = other ∧ rest = otherRest := by
  induction part generalizing other with
  | nil =>
      intro rest otherRest _ notInOther same
      cases other with
      | nil => exact ⟨rfl, (List.cons.inj same).2⟩
      | cons char chars =>
          have isSeparator : separator = char := (List.cons.inj same).1
          exact absurd (isSeparator ▸ List.mem_cons_self) notInOther
  | cons char chars inductionHypothesis =>
      intro rest otherRest notInPart notInOther same
      cases other with
      | nil =>
          have isSeparator : char = separator := (List.cons.inj same).1
          exact absurd (isSeparator ▸ List.mem_cons_self) notInPart
      | cons otherChar otherChars =>
          obtain ⟨sameChar, sameChars⟩ := List.cons.inj same
          obtain ⟨samePart, sameRest⟩ := inductionHypothesis
            (fun member => notInPart (List.mem_cons_of_mem _ member))
            (fun member => notInOther (List.mem_cons_of_mem _ member)) sameChars
          exact ⟨by rw [sameChar, samePart], sameRest⟩

/-- Parts with the same number of bytes end at the same place. -/
theorem append_utf8Len_inj
    {part other : List Char} :
    ∀ {rest otherRest : List Char},
      String.utf8Len part = String.utf8Len other →
        part ++ rest = other ++ otherRest → part = other ∧ rest = otherRest := by
  induction part generalizing other with
  | nil =>
      intro rest otherRest sameLength same
      have empty : other = [] := String.utf8Len_eq_zero.mp sameLength.symm
      subst empty
      exact ⟨rfl, same⟩
  | cons char chars inductionHypothesis =>
      intro rest otherRest sameLength same
      cases other with
      | nil => exact absurd (String.utf8Len_eq_zero.mp sameLength) (List.cons_ne_nil _ _)
      | cons otherChar otherChars =>
          obtain ⟨sameChar, sameChars⟩ := List.cons.inj same
          subst sameChar
          rw [String.utf8Len_cons, String.utf8Len_cons, Nat.add_right_cancel_iff]
            at sameLength
          obtain ⟨samePart, sameRest⟩ := inductionHypothesis sameLength sameChars
          exact ⟨by rw [samePart], sameRest⟩

/-- What stands behind a part of some length and a separator. -/
theorem drop_append_separator
    {part : List Char}
    {length : Nat}
    (isLength : part.length = length)
    (separator : Char)
    (rest : List Char) :
    (part ++ separator :: rest).drop (length + 1) = rest := by
  rw [List.append_cons,
    List.drop_left' (by rw [List.length_append, isLength, List.length_singleton])]

/-- No digit stands in front. -/
def StartsWithoutDigit (chars : List Char) : Prop :=
  ∀ char, chars.head? = some char → char.isDigit = false

theorem startsWithoutDigit_cons
    {char : Char}
    {chars : List Char}
    (noDigit : char.isDigit = false) :
    StartsWithoutDigit (char :: chars) := by
  rintro _ ⟨⟩
  exact noDigit

/-- A run of digits ends where no digit follows. -/
theorem takeWhile_isDigit_append
    {digits rest : List Char}
    (areDigits : ∀ digit ∈ digits, digit.isDigit = true)
    (ends : StartsWithoutDigit rest) :
    (digits ++ rest).takeWhile Char.isDigit = digits := by
  rw [List.takeWhile_append_of_pos areDigits]
  cases rest with
  | nil => rw [List.takeWhile_nil, List.append_nil]
  | cons char chars =>
      rw [List.takeWhile_cons_of_neg (by simp [ends char rfl]), List.append_nil]

/-- A number ends where no digit follows. -/
theorem append_decimalDigits_inj
    {number other : Nat}
    {rest otherRest : List Char}
    (ends : StartsWithoutDigit rest)
    (otherEnds : StartsWithoutDigit otherRest)
    (same : decimalDigits number ++ rest = decimalDigits other ++ otherRest) :
    number = other ∧ rest = otherRest := by
  have sameDigits : decimalDigits number = decimalDigits other :=
    calc
      decimalDigits number = (decimalDigits number ++ rest).takeWhile Char.isDigit :=
        (takeWhile_isDigit_append (fun _ => isDigit_of_mem_decimalDigits) ends).symm
      _ = (decimalDigits other ++ otherRest).takeWhile Char.isDigit := by rw [same]
      _ = decimalDigits other :=
        takeWhile_isDigit_append (fun _ => isDigit_of_mem_decimalDigits) otherEnds
  refine ⟨decimalDigits_injective sameDigits, ?_⟩
  rw [sameDigits] at same
  exact List.append_cancel_left same

end Text
end RowBinding
