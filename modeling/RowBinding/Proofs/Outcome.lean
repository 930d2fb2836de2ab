import RowBinding.Expression.Error

/-!
# Outcomes

Sequences of computations that may fail. A sequence succeeds exactly when its
parts do, and otherwise fails like the first part that does.
-/

namespace RowBinding
namespace Outcome

variable {ε α β : Type}

@[simp] theorem pure_eq_ok (value : α) : (pure value : Except ε α) = .ok value := rfl

@[simp] theorem ok_bind (value : α) (next : α → Except ε β) :
    (Except.ok value >>= next) = next value := rfl

@[simp] theorem error_bind (error : ε) (next : α → Except ε β) :
    (Except.error error >>= next) = .error error := rfl

/-- A sequence yields a value exactly when both of its parts yield theirs. -/
theorem bind_eq_ok_iff
    {first : Except ε α}
    {next : α → Except ε β}
    {result : β} :
    (first >>= next) = .ok result ↔
      ∃ value, first = .ok value ∧ next value = .ok result := by
  cases first with
  | error error => simp
  | ok value => simp

theorem map_bind
    {δ : Type}
    (first : Except ε α)
    (next : α → Except ε β)
    (change : β → δ) :
    (first >>= next).map change = first >>= fun value => (next value).map change := by
  cases first <;> rfl

/-- A value that is changed comes from a value. -/
theorem map_eq_ok_iff
    {outcome : Except ε α}
    {change : α → β}
    {result : β} :
    outcome.map change = .ok result ↔ ∃ value, outcome = .ok value ∧ change value = result := by
  cases outcome with
  | error error => simp [Except.map]
  | ok value => simp [Except.map]

/-- Changing the value leaves a failure as it is. -/
theorem map_eq_error_iff
    {outcome : Except ε α}
    {change : α → β}
    {error : ε} :
    outcome.map change = .error error ↔ outcome = .error error := by
  cases outcome with
  | error other => simp [Except.map]
  | ok value => simp [Except.map]

/-- Changing the failure leaves a value as it is. -/
theorem mapError_eq_ok_iff
    {δ : Type}
    {outcome : Except ε α}
    {change : ε → δ}
    {result : α} :
    outcome.mapError change = .ok result ↔ outcome = .ok result := by
  constructor <;> intro same <;> cases outcome <;> cases same <;> rfl

/-- A failure that is changed comes from a failure. -/
theorem mapError_eq_error_iff
    {δ : Type}
    {outcome : Except ε α}
    {change : ε → δ}
    {error : δ} :
    outcome.mapError change = .error error ↔
      ∃ cause, outcome = .error cause ∧ change cause = error := by
  constructor
  · intro fails
    cases outcome with
    | error cause => exact ⟨cause, rfl, Except.error.inj fails⟩
    | ok value => cases fails
  · rintro ⟨cause, rfl, rfl⟩
    rfl

/-- Changing the failure of a sequence changes those of its parts. -/
theorem mapError_bind
    {δ : Type}
    (first : Except ε α)
    (next : α → Except ε β)
    (change : ε → δ) :
    (first >>= next).mapError change =
      first.mapError change >>= fun value => (next value).mapError change := by
  cases first <;> rfl

/-- Changing the failures of the steps of a fold changes its failure, if an invariant of the
steps says that they differ in nothing else. -/
theorem foldlM_mapError
    {δ : Type}
    {step : β → α → Except ε β}
    {changed : β → α → Except δ β}
    {change : ε → δ}
    {elements : List α}
    (Invariant : β → Prop)
    (keeps : ∀ state, ∀ element ∈ elements, Invariant state →
      changed state element = (step state element).mapError change ∧
        ∀ next, step state element = .ok next → Invariant next) :
    ∀ {start : β}, Invariant start →
      elements.foldlM changed start = (elements.foldlM step start).mapError change := by
  induction elements with
  | nil => exact fun _ => rfl
  | cons first rest inductionHypothesis =>
      intro start holds
      obtain ⟨isChanged, holdsNext⟩ := keeps start first List.mem_cons_self holds
      rw [List.foldlM_cons, List.foldlM_cons, isChanged, mapError_bind]
      cases stepped : step start first with
      | error error => rfl
      | ok next =>
          exact inductionHypothesis
            (fun state element member => keeps state element (List.mem_cons_of_mem _ member))
            (holdsNext next stepped)

/-! ## Values without the reasons of failures -/

theorem toOption_eq_some_iff {outcome : Except ε α} {value : α} :
    outcome.toOption = some value ↔ outcome = .ok value := by
  cases outcome <;> simp [Except.toOption]

theorem toOption_bind (first : Except ε α) (next : α → Except ε β) :
    (first >>= next).toOption = first.toOption.bind fun value => (next value).toOption := by
  cases first <;> rfl

/-! ## Failures -/

/-- The failure of a computation, if it fails. -/
def error? : Except ε α → Option ε
  | .ok _ => none
  | .error error => some error

theorem error?_eq_some_iff {outcome : Except ε α} {error : ε} :
    error? outcome = some error ↔ outcome = .error error := by
  cases outcome <;> simp [error?]

theorem error?_eq_none_iff {outcome : Except ε α} :
    error? outcome = none ↔ ∃ value, outcome = .ok value := by
  cases outcome <;> simp [error?]

/-- A sequence whose second part fails alike on every value fails like the first part
that does. -/
theorem error?_bind
    {first : Except ε α}
    {next : α → Except ε β}
    {later : Option ε}
    (failsAlike : ∀ value, error? (next value) = later) :
    error? (first >>= next) = (error? first).or later := by
  cases first with
  | error error => rfl
  | ok value => exact failsAlike value

/-- Changing the value leaves it to the computation whether it fails. -/
theorem error?_bind_pure (first : Except ε α) (change : α → β) :
    error? (first >>= fun value => pure (change value)) = error? first := by
  cases first <;> rfl

end Outcome
end RowBinding
