import RowBinding.Proofs.Binding.Placeholders
import RowBinding.Proofs.Text.Digits

/-!
# The grammar of placeholder names

A column name denotes a slot exactly if it goes on, behind the stem, with digits
of a number of sixty-four bits, which end the name or stand before an underscore.
The digits are the written number with any number of zeros in front of it.

The stem is any text. Where it goes on with digits or underscores of its own,
these are not read again: only what is behind the stem counts.
-/

namespace RowBinding

namespace BindingConfig

variable
  {config : BindingConfig}
  {name : String}
  {slot : Nat}

/-- The end of a placeholder name, behind the digits: nothing, or an underscore and any text. -/
def IsEnding (ending : String) : Prop :=
  ending = "" ∨ ∃ suffix, ending = "_" ++ suffix

theorem isEnding_iff (ending : String) :
    IsEnding ending ↔ ending.toList = [] ∨ ending.toList.head? = some '_' := by
  rw [String.toList_eq_nil_iff, List.head?_eq_some_iff]
  refine or_congr_right ⟨?_, ?_⟩
  · rintro ⟨suffix, rfl⟩
    exact ⟨suffix.toList, String.toList_append⟩
  · rintro ⟨behind, isBehind⟩
    refine ⟨String.ofList behind, String.toList_inj.mp ?_⟩
    simp [isBehind]

/-- A name that denotes a slot has the digits of that slot behind the stem. -/
theorem exists_namesSlot_of_placeholderSlot?
    (denotes : config.placeholderSlot? name = some slot) :
    slot ≤ greatestSlot ∧
      ∃ digits, config.NamesSlot name digits ∧ Text.digitsValue digits = slot := by
  simp only [placeholderSlot?, Option.ite_none_right_eq_some, Option.some.injEq,
    Bool.and_eq_true, decide_eq_true_eq, List.isPrefixOf_iff_prefix] at denotes
  obtain ⟨⟨behind, isBehind⟩, ⟨isDigits, isSlot⟩, isValue⟩ := denotes
  rw [← isBehind, List.drop_left] at isDigits isSlot isValue
  refine ⟨isValue ▸ isSlot, _, ⟨isDigits, behind.dropWhile (· != '_'), ?_, ?_⟩, isValue⟩
  · rw [List.takeWhile_append_dropWhile, isBehind]
  · -- What the digits stop at is no other character than an underscore.
    have stops := List.head?_dropWhile_not (· != '_') behind
    cases isRest : (behind.dropWhile (· != '_')).head? with
    | none => exact .inl (List.head?_eq_none_iff.mp isRest)
    | some first =>
        rw [isRest] at stops
        exact .inr (congrArg some (by simpa using stops))

/-- The slots that a name denotes are those of its digits. -/
theorem placeholderSlot?_eq_some_iff_namesSlot :
    config.placeholderSlot? name = some slot ↔
      slot ≤ greatestSlot ∧
        ∃ digits, config.NamesSlot name digits ∧ Text.digitsValue digits = slot := by
  refine ⟨exists_namesSlot_of_placeholderSlot?, ?_⟩
  rintro ⟨isSlot, digits, names, rfl⟩
  rw [names.placeholderSlot?_eq, if_pos isSlot]

/-- The digits of a slot are its number behind zeros. -/
theorem exists_namesSlot_iff :
    (∃ digits, config.NamesSlot name digits ∧ Text.digitsValue digits = slot) ↔
      ∃ width ending,
        name = config.placeholderStem ++ Text.ofNatPadded width slot ++ ending ∧
          IsEnding ending := by
  constructor
  · rintro ⟨digits, ⟨isDigits, rest, spelled, ends⟩, rfl⟩
    rw [Text.isDigits, Bool.and_eq_true, List.all_eq_true] at isDigits
    have nonempty : digits ≠ [] := by
      rintro rfl
      cases isDigits.1
    refine ⟨digits.length, String.ofList rest, String.toList_inj.mp ?_, ?_⟩
    · rw [String.toList_append, String.toList_append, Text.toList_ofNatPadded,
        Text.padZeros_digitsValue isDigits.2 nonempty, String.toList_ofList, spelled,
        List.append_assoc]
    · rw [isEnding_iff, String.toList_ofList]
      exact ends
  · rintro ⟨width, ending, rfl, isEnding⟩
    refine ⟨Text.padZeros width (Text.decimalDigits slot), ⟨?_, ending.toList, ?_, ?_⟩, ?_⟩
    · rw [Text.isDigits, Bool.and_eq_true, List.all_eq_true]
      refine ⟨?_, Text.isDigit_of_mem_padZeros_decimalDigits⟩
      rw [Bool.not_eq_true', List.isEmpty_eq_false_iff]
      exact Text.padZeros_decimalDigits_ne_nil width slot
    · rw [String.toList_append, String.toList_append, Text.toList_ofNatPadded,
        List.append_assoc]
    · exact (isEnding_iff ending).mp isEnding
    · rw [Text.digitsValue_padZeros, Text.digitsValue_decimalDigits]

/--
The slots that column names denote.

Behind the stem stand the digits of the slot: its written number, after any number of zeros.
No other name denotes a slot, and a number that takes more than sixty-four bits is none.
-/
theorem placeholderSlot?_eq_some_iff (config : BindingConfig) (name : String) (slot : Nat) :
    (config.placeholderSlot? name = some slot ↔
        slot < 2 ^ 64 ∧
          ∃ digits, config.NamesSlot name digits ∧ Text.digitsValue digits = slot) ∧
      (config.placeholderSlot? name = some slot ↔
        slot < 2 ^ 64 ∧
          ∃ width ending,
            name = config.placeholderStem ++ Text.ofNatPadded width slot ++ ending ∧
              IsEnding ending) ∧
      (config.placeholderSlot? (config.placeholderStem ++ Text.ofNat slot) = some slot ↔
        slot < 2 ^ 64) ∧
      ∀ suffix,
        config.placeholderSlot?
            (config.placeholderStem ++ Text.ofNat slot ++ ("_" ++ suffix)) = some slot ↔
          slot < 2 ^ 64 := by
  have fits : slot ≤ greatestSlot ↔ slot < 2 ^ 64 := by
    unfold greatestSlot
    omega
  have isSpelled (name : String) :
      config.placeholderSlot? name = some slot ↔
        slot < 2 ^ 64 ∧ ∃ width ending,
          name = config.placeholderStem ++ Text.ofNatPadded width slot ++ ending ∧
            IsEnding ending := by
    rw [placeholderSlot?_eq_some_iff_namesSlot, exists_namesSlot_iff, fits]
  have isWritten (ending : String) (isEnding : IsEnding ending) :
      config.placeholderSlot? (config.placeholderStem ++ Text.ofNat slot ++ ending) = some slot ↔
        slot < 2 ^ 64 := by
    rw [isSpelled]
    exact and_iff_left ⟨0, ending, by rw [Text.ofNatPadded_zero], isEnding⟩
  refine ⟨?_, isSpelled name, ?_, fun suffix => isWritten _ (.inr ⟨suffix, rfl⟩)⟩
  · rw [placeholderSlot?_eq_some_iff_namesSlot, fits]
  · simpa using isWritten "" (.inl rfl)

/-- Digits and underscores of the stem are not those of the slot. -/
example :
    let config : BindingConfig := { placeholderStem := "é7_0" }
    config.placeholderSlot? "é7_0018_8" = some 18 ∧
      config.placeholderSlot? "é7_0" = none ∧
      config.placeholderSlot? "é7_01a_8" = none ∧
      config.placeholderSlot? "é7_0_8" = none := by
  decide

end BindingConfig
end RowBinding
