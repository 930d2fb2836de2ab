import RowBinding.Proofs.Binding.Refusals

/-!
# Placeholder columns

The name of a placeholder goes on, behind the stem, with the digits of a slot
number. A column that has no member is passed over if it is a placeholder of a
real slot: the other columns are bound as they are without it, to cells that
have moved up by one behind it. If there is no such slot, compilation stops at
the placeholder.

Digits of a number that is greater than any slot number are not taken for a
placeholder, so such a column is passed over, however many slots there are.
-/

namespace RowBinding

variable {τ : Type}

/-! ## Names of slots -/

namespace BindingConfig

variable
  {config : BindingConfig}
  {name : String}
  {digits : List Char}

/-- The name is the stem with digits behind it, which end it or stand before an underscore. -/
structure NamesSlot (config : BindingConfig) (name : String) (digits : List Char) : Prop where
  isDigits : Text.isDigits digits = true
  spelled : ∃ rest, name.toList = config.placeholderStem.toList ++ (digits ++ rest) ∧
    (rest = [] ∨ rest.head? = some '_')

/-- A run of digits goes as far as to the next underscore. -/
theorem takeWhile_append_of_ends
    {rest : List Char}
    (isDigits : Text.isDigits digits = true)
    (ends : rest = [] ∨ rest.head? = some '_') :
    (digits ++ rest).takeWhile (· != '_') = digits := by
  rw [Text.isDigits, Bool.and_eq_true, List.all_eq_true] at isDigits
  have isNoUnderscore (digit : Char) (member : digit ∈ digits) : (digit != '_') = true := by
    refine bne_iff_ne.mpr fun isUnderscore => ?_
    have isDigit := isDigits.2 digit member
    rw [isUnderscore] at isDigit
    cases isDigit
  rw [List.takeWhile_append_of_pos isNoUnderscore]
  rcases ends with rfl | ends
  · rw [List.takeWhile_nil, List.append_nil]
  · obtain ⟨behind, rfl⟩ := List.head?_eq_some_iff.mp ends
    rw [List.takeWhile_cons_of_neg (by decide), List.append_nil]

/-- The number behind the stem is a slot number unless it is greater than any of these. -/
theorem NamesSlot.placeholderSlot?_eq (names : config.NamesSlot name digits) :
    config.placeholderSlot? name =
      if Text.digitsValue digits ≤ greatestSlot then some (Text.digitsValue digits) else none := by
  obtain ⟨rest, spelled, ends⟩ := names.spelled
  have isStem : config.placeholderStem.toList.isPrefixOf name.toList = true := by
    rw [spelled, List.isPrefixOf_iff_prefix]
    exact List.prefix_append _ _
  have isRun : (name.toList.drop config.placeholderStem.toList.length).takeWhile (· != '_') =
      digits := by
    rw [spelled, List.drop_left]
    exact takeWhile_append_of_ends names.isDigits ends
  unfold placeholderSlot?
  dsimp only
  rw [if_pos isStem, isRun, names.isDigits, Bool.true_and]
  simp only [decide_eq_true_eq]

end BindingConfig

/-! ## Columns that are passed over -/

/-- The position of a column in a schema that has one more column at some position. -/
def movedBehind (position ordinal : Nat) : Nat :=
  if ordinal < position then ordinal else ordinal + 1

theorem movedBehind_ne (position ordinal : Nat) : movedBehind position ordinal ≠ position := by
  unfold movedBehind
  split <;> omega

/-- The cells of a record without the one at a position. -/
def RowRecord.without (record : RowRecord) (position : Nat) : RowRecord where
  isNull ordinal := record.isNull (movedBehind position ordinal)
  value ordinal := record.value (movedBehind position ordinal)

namespace ColumnPlan

/-- The plan of a column in a schema that has one more column at some position. -/
def behind (plan : ColumnPlan) (position : Nat) : ColumnPlan :=
  { plan with ordinal := movedBehind position plan.ordinal }

end ColumnPlan

namespace Binder

/-- The arguments of a constructor that a row makes of the defaults. -/
def arguments
    (binder : Binder τ)
    (record : RowRecord)
    (defaults : List Value) : Except BindError (List Value) :=
  binder.plans.foldlM (binder.fill record) defaults

/-- A binder makes of rows what another one makes of them without the cells of a column. -/
structure PassesOver (binder : Binder τ) (position : Nat) (other : Binder τ) : Prop where
  plans_eq : binder.plans = other.plans.map (·.behind position)
  ordinal_ne : ∀ plan ∈ binder.plans, plan.ordinal ≠ position
  construction_eq : binder.construction = other.construction
  arguments_eq : ∀ record defaults,
    binder.arguments record defaults = other.arguments (record.without position) defaults
  bind_eq : ∀ record, binder.bind record = other.bind (record.without position)

end Binder

namespace Compiler

variable
  {compiler : Compiler}
  {config : BindingConfig}
  {target : TargetDescriptor τ}
  {column : ColumnDescriptor}

theorem planColumn_movedBehind
    (position ordinal : Nat)
    (column : ColumnDescriptor)
    (member : MemberDescriptor τ)
    (sink : Sink) :
    planColumn (movedBehind position ordinal) column member sink =
      (planColumn ordinal column member sink).map (·.behind position) := by
  unfold planColumn
  cases ConversionRules.readOperation? column.dataType with
  | none => rfl
  | some read =>
      dsimp only
      split
      · split <;> rfl
      · split <;> rfl

/-- The plan of one more column moves with the plans of the later ones. -/
theorem planSlots_cons_movedBehind
    {position ordinal : Nat}
    {moved rest : List ColumnDescriptor}
    (isLater : planSlots config target (movedBehind position ordinal + 1) moved =
      (planSlots config target (ordinal + 1) rest).map (List.map (·.behind position)))
    (column : ColumnDescriptor) :
    planSlots config target (movedBehind position ordinal) (column :: moved) =
      (planSlots config target ordinal (column :: rest)).map (List.map (·.behind position)) := by
  unfold planSlots
  rw [isLater]
  cases target.findMember? column.name with
  | none => cases checkPlaceholder config target column <;> rfl
  | some placed =>
      dsimp only
      rw [planColumn_movedBehind]
      cases planColumn ordinal column placed.2 (.slot placed.1) with
      | error error => rfl
      | ok plan => cases planSlots config target (ordinal + 1) rest <;> rfl

/-- A column in front of all others moves their plans. -/
theorem planSlots_succ
    {position : Nat}
    (columns : List ColumnDescriptor) :
    ∀ {ordinal}, position ≤ ordinal →
      planSlots config target (ordinal + 1) columns =
        (planSlots config target ordinal columns).map (List.map (·.behind position)) := by
  induction columns with
  | nil => exact fun _ => rfl
  | cons column rest inductionHypothesis =>
      intro ordinal inside
      have isMoved : movedBehind position ordinal = ordinal + 1 := if_neg (Nat.not_lt.mpr inside)
      rw [← isMoved]
      refine planSlots_cons_movedBehind ?_ column
      rw [isMoved]
      exact inductionHypothesis (Nat.le_succ_of_le inside)

/-- A column that is passed over moves the plans of the columns behind it. -/
theorem planSlots_insert
    (unmatched : target.findMember? column.name = none)
    (passes : checkPlaceholder config target column = .ok ())
    (before after : List ColumnDescriptor) :
    ∀ ordinal,
      planSlots config target ordinal (before ++ column :: after) =
        (planSlots config target ordinal (before ++ after)).map
          (List.map (·.behind (ordinal + before.length))) := by
  induction before with
  | nil =>
      intro ordinal
      rw [List.nil_append, planSlots, unmatched]
      dsimp only
      rw [passes]
      exact planSlots_succ after (Nat.le_refl ordinal)
  | cons other rest inductionHypothesis =>
      intro ordinal
      have isMoved : movedBehind (ordinal + (other :: rest).length) ordinal = ordinal :=
        if_pos (by rw [List.length_cons]; omega)
      have isLater := inductionHypothesis (ordinal + 1)
      rw [show ordinal + 1 + rest.length = ordinal + (other :: rest).length by
        rw [List.length_cons]; omega] at isLater
      have isWhole := planSlots_cons_movedBehind (by rw [isMoved]; exact isLater) other
      rw [isMoved] at isWhole
      exact isWhole

/-! ## Schemas with a placeholder -/

section Placeholder

variable
  {construct : List Value → Except String τ}
  {typeName : String}
  {before after : List ColumnDescriptor}
  {digits : List Char}

/-- The binder of a target that is made by one constructor call. -/
def slotBinder
    (compiler : Compiler)
    (typeName : String)
    (target : TargetDescriptor τ)
    (construct : List Value → Except String τ)
    (schema : RowSchema)
    (plans : List ColumnPlan) : Binder τ where
  target := target.identity
  fingerprint := .of typeName target schema
  plans := plans
  construction := .positional construct (target.members.map MemberDescriptor.zeroValue)
  codec := compiler.codec
  layouts := compiler.config.layouts

theorem build_eq_map_slotBinder
    (made : target.factory = .positional construct)
    (typeName : String)
    (schema : RowSchema) :
    compiler.build typeName target schema =
      (planSlots compiler.config target 0 schema.columns).map
        (compiler.slotBinder typeName target construct schema) := by
  unfold build
  rw [made]
  dsimp only
  cases planSlots compiler.config target 0 schema.columns <;> rfl

theorem passesOver_slotBinder
    (typeName : String)
    (schema rest : RowSchema)
    (plans : List ColumnPlan)
    (position : Nat) :
    (compiler.slotBinder typeName target construct schema
      (plans.map (·.behind position))).PassesOver position
        (compiler.slotBinder typeName target construct rest plans) := by
  have arguments_eq (record : RowRecord) (defaults : List Value) :
      (compiler.slotBinder typeName target construct schema
        (plans.map (·.behind position))).arguments record defaults =
          (compiler.slotBinder typeName target construct rest plans).arguments
            (record.without position) defaults := by
    unfold Binder.arguments slotBinder
    rw [List.foldlM_map]
    -- A moved plan extracts from a row what the plan extracts from the cells that are kept.
    rfl
  exact {
    plans_eq := rfl
    ordinal_ne := fun plan member => by
      obtain ⟨kept, _, rfl⟩ := List.mem_map.mp member
      exact movedBehind_ne position kept.ordinal
    construction_eq := rfl
    arguments_eq := arguments_eq
    bind_eq := fun record => congrArg (· >>= _) (arguments_eq record _) }

/-- A placeholder is refused if it names a slot that the target does not have. -/
theorem checkPlaceholder_of_namesSlot
    (names : config.NamesSlot column.name digits) :
    checkPlaceholder config target column =
      if target.arity ≤ Text.digitsValue digits ∧
          Text.digitsValue digits ≤ BindingConfig.greatestSlot then
        .error (.placeholderSlotOutOfRange column.name (Text.digitsValue digits) target.arity)
      else .ok () := by
  rw [checkPlaceholder, names.placeholderSlot?_eq]
  by_cases isSlot : Text.digitsValue digits ≤ BindingConfig.greatestSlot
  · rw [if_pos isSlot]
    dsimp only
    by_cases inside : Text.digitsValue digits < target.arity
    · rw [if_pos inside, if_neg fun beyond => Nat.not_lt.mpr beyond.1 inside]
    · rw [if_neg inside, if_pos ⟨Nat.not_lt.mp inside, isSlot⟩]
  · rw [if_neg isSlot, if_neg fun beyond => isSlot beyond.2]

/-- A compilation stops at a column that is refused as a placeholder, unless it stops at an
earlier one. -/
theorem build_eq_error_of_checkPlaceholder
    {error : BindError}
    (made : target.factory = .positional construct)
    (unmatched : target.findMember? column.name = none)
    (refused : checkPlaceholder compiler.config target column = .error error)
    (earlier : ∀ other ∈ before, ∃ binder,
      compiler.build typeName target ⟨[other]⟩ = .ok binder) :
    compiler.build typeName target ⟨before ++ column :: after⟩ = .error error := by
  have notScalar (make : Value → Except String τ) : target.factory ≠ .scalar make := by
    rw [made]
    nofun
  have passes : before.findSome? (compiler.stop? target) = none :=
    List.findSome?_eq_none_iff.mpr fun other isEarlier =>
      stop?_eq_none_of_build notScalar (earlier other isEarlier).choose_spec
  have stops : compiler.stop? target column = some error := by
    rw [stop?, unmatched, made]
    exact Outcome.error?_eq_some_iff.mpr refused
  rw [← Outcome.error?_eq_some_iff, error?_build notScalar, List.findSome?_append, passes,
    Option.none_or, findSome?_cons_eq_or, stops]
  rfl

/-- A column that has no member and is not refused either changes nothing else. -/
theorem passesOver_of_checkPlaceholder
    (made : target.factory = .positional construct)
    (unmatched : target.findMember? column.name = none)
    (passes : checkPlaceholder compiler.config target column = .ok ())
    (typeName : String)
    (before after : List ColumnDescriptor) :
    Outcome.error? (compiler.build typeName target ⟨before ++ column :: after⟩) =
        Outcome.error? (compiler.build typeName target ⟨before ++ after⟩) ∧
      ∀ binder other,
        compiler.build typeName target ⟨before ++ column :: after⟩ = .ok binder →
          compiler.build typeName target ⟨before ++ after⟩ = .ok other →
            binder.PassesOver before.length other := by
  rw [build_eq_map_slotBinder made, build_eq_map_slotBinder made,
    planSlots_insert unmatched passes before after 0, Nat.zero_add]
  cases planSlots compiler.config target 0 (before ++ after) with
  | error error => exact ⟨rfl, nofun⟩
  | ok plans =>
      refine ⟨rfl, fun binder other compiles otherCompiles => ?_⟩
      cases compiles
      cases otherCompiles
      exact passesOver_slotBinder typeName _ _ plans before.length

/--
What a placeholder does to a compilation.

If its slot is not one of the target, and is no greater than any slot number, compilation
stops at the placeholder, unless it stops at an earlier column. Otherwise it fails like the
compilation without the placeholder, or the binder passes over the placeholder.
-/
theorem build_placeholder
    (made : target.factory = .positional construct)
    (unmatched : target.findMember? column.name = none)
    (names : compiler.config.NamesSlot column.name digits)
    (typeName : String)
    (before after : List ColumnDescriptor) :
    (target.arity ≤ Text.digitsValue digits →
      Text.digitsValue digits ≤ BindingConfig.greatestSlot →
        (∀ other ∈ before, ∃ binder, compiler.build typeName target ⟨[other]⟩ = .ok binder) →
          compiler.build typeName target ⟨before ++ column :: after⟩ =
            .error (.placeholderSlotOutOfRange column.name (Text.digitsValue digits)
              target.arity)) ∧
    (Text.digitsValue digits < target.arity ∨
        BindingConfig.greatestSlot < Text.digitsValue digits →
      Outcome.error? (compiler.build typeName target ⟨before ++ column :: after⟩) =
          Outcome.error? (compiler.build typeName target ⟨before ++ after⟩) ∧
        ∀ binder other,
          compiler.build typeName target ⟨before ++ column :: after⟩ = .ok binder →
            compiler.build typeName target ⟨before ++ after⟩ = .ok other →
              binder.PassesOver before.length other) := by
  have checks : checkPlaceholder compiler.config target column = _ :=
    checkPlaceholder_of_namesSlot names
  constructor
  · intro beyond isSlot earlier
    rw [if_pos ⟨beyond, isSlot⟩] at checks
    exact build_eq_error_of_checkPlaceholder made unmatched checks earlier
  · intro isPassed
    rw [if_neg (by omega)] at checks
    exact passesOver_of_checkPlaceholder made unmatched checks typeName before after

/-- A target of one name, which is handed on as it is. -/
def nameTarget : TargetDescriptor (List Value) where
  identity := "Name"
  members := [{ name := "name", declaredType := .object }]
  factory := .positional .ok

/-- A column of texts. -/
def textColumn (name : String) : ColumnDescriptor where
  name := name
  dataType := .string

/-- A second slot of a target with one stops a compilation; the first one is passed over. -/
theorem build_nameTarget_placeholder :
    ({} : Compiler).build "Name" nameTarget
          ⟨[textColumn "name", textColumn "fast_args_index_1"]⟩ =
        .error (.placeholderSlotOutOfRange "fast_args_index_1" 1 1) ∧
      ∃ binder other,
        ({} : Compiler).build "Name" nameTarget
            ⟨[textColumn "fast_args_index_00_marker", textColumn "name"]⟩ = .ok binder ∧
          ({} : Compiler).build "Name" nameTarget ⟨[textColumn "name"]⟩ = .ok other ∧
            binder.PassesOver 0 other := by
  have made : nameTarget.factory = .positional .ok := rfl
  constructor
  · have names : ({} : Compiler).config.NamesSlot (textColumn "fast_args_index_1").name ['1'] :=
      ⟨by decide, [], rfl, .inl rfl⟩
    have stops := build_placeholder made rfl names "Name" [textColumn "name"] []
    refine stops.1 (by decide) (by decide) fun other isEarlier => ?_
    obtain rfl := List.mem_singleton.mp isEarlier
    exact ⟨_, rfl⟩
  · have names : ({} : Compiler).config.NamesSlot
        (textColumn "fast_args_index_00_marker").name ['0', '0'] :=
      ⟨by decide, "_marker".toList, rfl, .inr rfl⟩
    have passes := build_placeholder made rfl names "Name" [] [textColumn "name"]
    exact ⟨_, _, rfl, rfl, (passes.2 (.inl (by decide))).2 _ _ rfl rfl⟩

/-- A number that is greater than any slot number is not taken for a slot. -/
theorem exists_build_hugePlaceholder :
    BindingConfig.NamesSlot {} "fast_args_index_18446744073709551616"
        "18446744073709551616".toList ∧
      nameTarget.findMember? "fast_args_index_18446744073709551616" = none ∧
      nameTarget.arity ≤ Text.digitsValue "18446744073709551616".toList ∧
      (∃ binder, ({} : Compiler).build "Name" nameTarget ⟨[textColumn "name"]⟩ = .ok binder) ∧
      ∃ binder, ({} : Compiler).build "Name" nameTarget
        ⟨[textColumn "name", textColumn "fast_args_index_18446744073709551616"]⟩ =
          .ok binder :=
  ⟨⟨by decide, [], rfl, .inl rfl⟩, rfl, by decide, ⟨_, rfl⟩, _, rfl⟩

end Placeholder
end Compiler
end RowBinding
