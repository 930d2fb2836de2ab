import Mathlib.Data.List.Induction
import RowBinding.Proofs.Binding.Cache.Agreement
import RowBinding.Proofs.Binding.Compilation

/-!
# Compilers that share a cache

A key says nothing about the settings of a compiler. Compilers with one cache
therefore get from it, for a target and a shape of columns, the binder of the
first of them that could compile it, with the codec, the layouts and the
placeholders of that compiler. A compiler gets what it builds without the cache
if no other one was asked for the shape before, or only ones of its settings.

When the calls run beside each other, no compiler need be the first. Each call
then returns the binder of one of the compilers for the shape, or fails as its
own compiler does.
-/

namespace RowBinding

/-- Targets by result type and identity, one for each. -/
structure Catalogue (κ : Type) [ResultFamily κ] where
  target : (code : κ) → String → TargetDescriptor (ResultFamily.Carrier code)
  identity_target : ∀ code identity, (target code identity).identity = identity

namespace Compiler

/-- A call of a compiler for a target of a catalogue over a schema. -/
structure Call (κ : Type) where
  compiler : Compiler
  code : κ
  identity : String
  schema : RowSchema

variable {κ : Type} [ResultFamily κ]

namespace Call

/-- The calls are for one target and one shape of columns. -/
def SameShape (call other : Call κ) : Prop :=
  call.code = other.code ∧ call.identity = other.identity ∧
    call.schema.shape = other.schema.shape

instance [DecidableEq κ] (call other : Call κ) : Decidable (call.SameShape other) :=
  inferInstanceAs (Decidable (_ ∧ _ ∧ _))

variable (catalogue : Catalogue κ)

/-- The key that a call asks the cache for. -/
def key (call : Call κ) : Fingerprint :=
  .of (ResultFamily.typeName call.code) (catalogue.target call.code call.identity) call.schema

/-- What a compiler builds, without a cache, for the target and schema of a call. -/
def builtBy (call : Call κ) (compiler : Compiler) :
    Except BindError (Binder (ResultFamily.Carrier call.code)) :=
  compiler.build (ResultFamily.typeName call.code)
    (catalogue.target call.code call.identity) call.schema

/-- The entry that a call computes if its key has none. -/
def entry (call : Call κ) (serial : Nat) : Except BindError (CompiledEntry κ) :=
  call.compiler.newEntry call.code (catalogue.target call.code call.identity) call.schema
    serial

/-- Run a call on a cache. -/
def compile [DecidableEq κ] (call : Call κ) :
    StateM (BindingCache (CompiledEntry κ) × Nat)
      (Except BindError (Binder (ResultFamily.Carrier call.code) × Nat)) :=
  call.compiler.compile (BindingCache.store (CompiledEntry κ)) call.code
    (catalogue.target call.code call.identity) call.schema

/-- The outcome of a call whose request to the cache has a result. -/
def outcome [DecidableEq κ]
    (call : Call κ)
    (result : Except BindError (CompiledEntry κ)) :
    Except BindError (Binder (ResultFamily.Carrier call.code)) :=
  (result >>= takeBinder call.code (call.key catalogue)).map Prod.fst

section Shape

variable {catalogue} {call other : Call κ}

theorem SameShape.key_eq (same : call.SameShape other) :
    call.key catalogue = other.key catalogue := by
  obtain ⟨compiler, code, identity, schema⟩ := call
  obtain ⟨sameCode, sameIdentity, sameShape⟩ := same
  dsimp only at sameCode sameIdentity
  subst sameCode sameIdentity
  exact (Fingerprint.of_eq_of_iff_of_identity rfl).mpr ⟨rfl, sameShape⟩

/-- An entry is computed for a call exactly when its compiler builds for the shape. -/
theorem SameShape.isOk_entry (same : other.SameShape call) (serial : Nat) :
    (other.entry catalogue serial).isOk = (call.builtBy catalogue other.compiler).isOk := by
  obtain ⟨compiler, code, identity, schema⟩ := other
  obtain ⟨sameCode, sameIdentity, sameShape⟩ := same
  dsimp only at sameCode sameIdentity
  subst sameCode sameIdentity
  unfold entry newEntry builtBy
  rw [build_eq_of_shape compiler _ _ sameShape]
  cases compiler.build _ _ call.schema <;> rfl

/-- An entry for the shape of a call gives what its compiler builds for the call. -/
theorem SameShape.outcome_entry
    [DecidableEq κ]
    (same : other.SameShape call)
    (serial : Nat) :
    call.outcome catalogue (other.entry catalogue serial) =
      call.builtBy catalogue other.compiler := by
  obtain ⟨compiler, code, identity, schema⟩ := other
  obtain ⟨sameCode, sameIdentity, sameShape⟩ := same
  dsimp only at sameCode sameIdentity
  subst sameCode sameIdentity
  unfold outcome entry builtBy
  rw [newEntry_bind_takeBinder, ← build_eq_of_shape compiler _ _ sameShape]
  cases compiler.build _ _ schema <;> rfl

/-- A call gets from its own entry what its compiler builds. -/
theorem outcome_entry [DecidableEq κ] (serial : Nat) :
    call.outcome catalogue (call.entry catalogue serial) =
      call.builtBy catalogue call.compiler :=
  SameShape.outcome_entry ⟨rfl, rfl, rfl⟩ serial

end Shape

/-! ## Calls one after another -/

section Sequence

variable [DecidableEq κ]

/-- The cache and the next serial number after some calls. -/
def after (serial : Nat) (calls : List (Call κ)) : BindingCache (CompiledEntry κ) × Nat :=
  calls.foldl (fun state call => (call.compile catalogue state).2) ({}, serial)

/-- The first of some calls for the shape of a call whose compiler can build it. -/
def firstBuilder? (calls : List (Call κ)) (call : Call κ) : Option (Call κ) :=
  calls.find? fun other =>
    other.SameShape call && (call.builtBy catalogue other.compiler).isOk

/-- The cache holds the entry of the first builder for a call, and else none. -/
def HoldsFirst
    (cache : BindingCache (CompiledEntry κ))
    (calls : List (Call κ))
    (call : Call κ) : Prop :=
  match firstBuilder? catalogue calls call with
  | some other => ∃ serial entry,
      other.entry catalogue serial = .ok entry ∧ cache.get? (call.key catalogue) = some entry
  | none => cache.get? (call.key catalogue) = none

variable {catalogue} {calls : List (Call κ)} {call last : Call κ}

theorem mem_of_firstBuilder?
    {other : Call κ}
    (isFirst : firstBuilder? catalogue calls call = some other) :
    other ∈ calls ∧ other.SameShape call := by
  have builds := List.find?_some isFirst
  rw [Bool.and_eq_true, decide_eq_true_eq] at builds
  exact ⟨List.mem_of_find?_eq_some isFirst, builds.1⟩

/-- A further call is the first builder if it builds and no call before it did. -/
theorem SameShape.firstBuilder?_concat (same : last.SameShape call) :
    firstBuilder? catalogue (calls ++ [last]) call =
      (firstBuilder? catalogue calls call).or
        (if (call.builtBy catalogue last.compiler).isOk then some last else none) := by
  rw [firstBuilder?, List.find?_append, List.find?_singleton, decide_eq_true same,
    Bool.true_and]
  rfl

theorem firstBuilder?_concat_of_not_sameShape (different : ¬ last.SameShape call) :
    firstBuilder? catalogue (calls ++ [last]) call = firstBuilder? catalogue calls call := by
  rw [firstBuilder?, List.find?_append, List.find?_singleton, decide_eq_false different,
    Bool.false_and, if_neg Bool.false_ne_true, Option.or_none]
  rfl

theorem fst_compile
    (call : Call κ)
    (cache : BindingCache (CompiledEntry κ))
    (serial : Nat) :
    (call.compile catalogue (cache, serial)).1.map Prod.fst =
      call.outcome catalogue (BindingCache.answer (cache.get? (call.key catalogue))
        (call.entry catalogue serial)) := by
  unfold compile
  rw [compile_apply]
  rfl

section Cache

variable {cache : BindingCache (CompiledEntry κ)}

theorem sound_compile (sound : cache.Sound) (call : Call κ) (serial : Nat) :
    (call.compile catalogue (cache, serial)).2.1.Sound := by
  unfold compile
  rw [compile_apply]
  exact sound.getOrCompute _ _

theorem get?_compile
    (sound : cache.Sound)
    (call : Call κ)
    (serial : Nat)
    (key : Fingerprint) :
    (call.compile catalogue (cache, serial)).2.1.get? key =
      if key = call.key catalogue then
        (BindingCache.answer (cache.get? (call.key catalogue))
          (call.entry catalogue serial)).toOption
      else cache.get? key := by
  unfold compile
  rw [compile_apply]
  exact BindingCache.get?_getOrCompute sound _ _ _

/-- A call gets what the first builder builds, or else what its own compiler does. -/
theorem HoldsFirst.fst_compile
    (holds : HoldsFirst catalogue cache calls call)
    (serial : Nat) :
    (call.compile catalogue (cache, serial)).1.map Prod.fst =
      call.builtBy catalogue ((firstBuilder? catalogue calls call).getD call).compiler := by
  rw [Call.fst_compile]
  unfold HoldsFirst at holds
  cases isFirst : firstBuilder? catalogue calls call with
  | some other =>
      rw [isFirst] at holds
      obtain ⟨drawn, entry, computes, isHeld⟩ := holds
      have same := (mem_of_firstBuilder? isFirst).2
      rw [isHeld, Option.getD_some, ← same.outcome_entry drawn, computes]
      rfl
  | none =>
      rw [isFirst] at holds
      rw [holds]
      exact outcome_entry serial

/-- A call whose key tells its shape leaves the entry of the first builder. -/
theorem HoldsFirst.compile
    (holds : HoldsFirst catalogue cache calls call)
    (sound : cache.Sound)
    (exact : last.key catalogue = call.key catalogue → last.SameShape call)
    (serial : Nat) :
    HoldsFirst catalogue (last.compile catalogue (cache, serial)).2.1 (calls ++ [last])
      call := by
  unfold HoldsFirst at holds ⊢
  rw [get?_compile sound]
  by_cases sameKey : last.key catalogue = call.key catalogue
  · have same := exact sameKey
    rw [if_pos sameKey.symm, sameKey, same.firstBuilder?_concat]
    cases isFirst : firstBuilder? catalogue calls call with
    | some other =>
        rw [isFirst] at holds
        obtain ⟨drawn, entry, computes, isHeld⟩ := holds
        exact ⟨drawn, entry, computes, by rw [isHeld]; rfl⟩
    | none =>
        rw [isFirst] at holds
        rw [holds, Option.none_or, ← same.isOk_entry serial]
        cases computes : last.entry catalogue serial with
        | ok entry => exact ⟨serial, entry, computes, rfl⟩
        | error error => rfl
  · have different : ¬ last.SameShape call := fun same => sameKey same.key_eq
    rw [if_neg (Ne.symm sameKey), firstBuilder?_concat_of_not_sameShape different]
    exact holds

end Cache

theorem after_concat (serial : Nat) (calls : List (Call κ)) (last : Call κ) :
    after catalogue serial (calls ++ [last]) =
      (last.compile catalogue (after catalogue serial calls)).2 := by
  rw [after, List.foldl_append]
  rfl

theorem sound_after (serial : Nat) (calls : List (Call κ)) :
    (after catalogue serial calls).1.Sound := by
  induction calls using List.reverseRecOn with
  | nil => exact BindingCache.sound_empty
  | append_singleton calls last inductionHypothesis =>
      rw [after_concat]
      exact sound_compile inductionHypothesis last _

theorem holdsFirst_after
    (serial : Nat)
    (exact : ∀ other ∈ calls,
      other.key catalogue = call.key catalogue → other.SameShape call) :
    HoldsFirst catalogue (after catalogue serial calls).1 calls call := by
  induction calls using List.reverseRecOn with
  | nil => rfl
  | append_singleton calls last inductionHypothesis =>
      have holds := inductionHypothesis fun other isOther =>
        exact other (List.mem_append_left [last] isOther)
      rw [after_concat]
      exact holds.compile (sound_after serial calls)
        (exact last (List.mem_append_right calls (List.mem_singleton_self last))) _

end Sequence

/-! ## Calls beside each other -/

section Interleaving

variable [DecidableEq κ]

/-- A state of the cache that the calls can reach in some order of their steps, every
one of them computing its own entry. -/
structure RunsBeside
    (calls : List (Call κ))
    (shared : BindingCache.Shared (CompiledEntry κ)) : Prop where
  reaches : BindingCache.Shared.Reaches (.start {} (calls.map (key catalogue))) shared
  follows : ∃ computed : Nat → Except BindError (CompiledEntry κ),
    (∀ position call, calls[position]? = some call →
      ∃ serial, computed position = call.entry catalogue serial) ∧
    shared.Follows computed

variable {catalogue} {calls : List (Call κ)} {call : Call κ}

/-- A call gets what a compiler builds that was asked for the shape, or fails as its own
compiler does. -/
theorem RunsBeside.outcome_eq
    {shared : BindingCache.Shared (CompiledEntry κ)}
    {position : Nat}
    {request : BindingCache.Request (CompiledEntry κ)}
    {result : Except BindError (CompiledEntry κ)}
    (runs : RunsBeside catalogue calls shared)
    (exact : ∀ other ∈ calls,
      other.key catalogue = call.key catalogue → other.SameShape call)
    (isCall : calls[position]? = some call)
    (found : shared.requests[position]? = some request)
    (returns : request.phase.result? = some result) :
    call.outcome catalogue result = call.builtBy catalogue call.compiler ∨
      ∃ other ∈ calls, other.SameShape call ∧
        (call.builtBy catalogue other.compiler).isOk = true ∧
          call.outcome catalogue result = call.builtBy catalogue other.compiler := by
  obtain ⟨computed, computes, follows⟩ := runs.follows
  have settled := BindingCache.Shared.settled?_of_result? returns
  cases result with
  | error error =>
      have wellFormed := (BindingCache.Shared.wellFormed_start _).reaches runs.reaches
      have missed := wellFormed.missed_of_error found settled
      obtain ⟨serial, isEntry⟩ := computes position call isCall
      rw [follows found missed settled, isEntry]
      exact .inl (outcome_entry serial)
  | ok entry =>
      have keys := runs.reaches.keys_eq
      have isKey : request.key = call.key catalogue := by
        have sameKey := congrArg (·[position]?) keys
        simpa [BindingCache.Shared.start, found, isCall] using sameKey
      obtain ⟨place, isPlace, yields⟩ :=
        (BindingCache.Shared.sourced_of_reaches runs.reaches follows).settled found settled
      rw [List.getElem?_map, Option.map_eq_some_iff] at isPlace
      obtain ⟨other, isOther, sameKey⟩ := isPlace
      have member := List.mem_of_getElem? isOther
      have same := exact other member (sameKey.trans isKey)
      obtain ⟨serial, isEntry⟩ := computes place other isOther
      rw [yields] at isEntry
      refine .inr ⟨other, member, same, ?_, ?_⟩
      · rw [← same.isOk_entry serial, ← isEntry]
        rfl
      · rw [isEntry, same.outcome_entry]

end Interleaving

/-! ## What a call gets -/

section Outcome

variable [DecidableEq κ]

/-- What a call gets after some others on a cache that was empty. -/
def outcomeAfter (serial : Nat) (earlier : List (Call κ)) (call : Call κ) :
    Except BindError (Binder (ResultFamily.Carrier call.code)) :=
  (call.compile catalogue (after catalogue serial earlier)).1.map Prod.fst

/-- What a call at a position can get beside the others. -/
def IsOutcomeBeside
    (calls : List (Call κ))
    (position : Nat)
    (call : Call κ)
    (result : Except BindError (Binder (ResultFamily.Carrier call.code))) : Prop :=
  ∃ shared request answer, RunsBeside catalogue calls shared ∧
    shared.requests[position]? = some request ∧ request.phase.result? = some answer ∧
      result = call.outcome catalogue answer

/--
A call whose key no call for another shape has gets what the first compiler builds that
could build its shape, or else what its own compiler does.

Beside other calls it gets what one of these compilers builds, or fails as its own does.
If no compiler with other settings is asked for the shape, it gets what its own builds.
-/
theorem outcome_eq_builtBy
    (catalogue : Catalogue κ)
    {calls : List (Call κ)}
    {position : Nat}
    {call : Call κ}
    (isCall : calls[position]? = some call)
    (exact : ∀ other ∈ calls,
      other.key catalogue = call.key catalogue → other.SameShape call) :
    let earlier := calls.take position
    let first := (firstBuilder? catalogue earlier call).getD call
    (∀ serial,
      outcomeAfter catalogue serial earlier call = call.builtBy catalogue first.compiler) ∧
      (∀ result, IsOutcomeBeside catalogue calls position call result →
        result = call.builtBy catalogue call.compiler ∨
          ∃ other ∈ calls, other.SameShape call ∧
            (call.builtBy catalogue other.compiler).isOk = true ∧
              result = call.builtBy catalogue other.compiler) ∧
      ((∀ other ∈ calls, other.SameShape call → other.compiler = call.compiler) →
        (∀ serial,
          outcomeAfter catalogue serial earlier call = call.builtBy catalogue call.compiler) ∧
          ∀ result, IsOutcomeBeside catalogue calls position call result →
            result = call.builtBy catalogue call.compiler) := by
  intro earlier first
  have isEarlier {other : Call κ} (member : other ∈ earlier) : other ∈ calls :=
    List.mem_of_mem_take member
  have getsFirst serial :
      outcomeAfter catalogue serial earlier call = call.builtBy catalogue first.compiler :=
    (holdsFirst_after serial fun other member => exact other (isEarlier member)).fst_compile _
  have getsOne result (isOutcome : IsOutcomeBeside catalogue calls position call result) :
      result = call.builtBy catalogue call.compiler ∨
        ∃ other ∈ calls, other.SameShape call ∧
          (call.builtBy catalogue other.compiler).isOk = true ∧
            result = call.builtBy catalogue other.compiler := by
    obtain ⟨shared, request, answer, runs, found, returns, rfl⟩ := isOutcome
    exact runs.outcome_eq exact isCall found returns
  refine ⟨getsFirst, getsOne, fun sameSettings =>
    ⟨fun serial => ?_, fun result isOutcome => ?_⟩⟩
  · have isOwn : first.compiler = call.compiler := by
      cases isFirst : firstBuilder? catalogue earlier call with
      | none => rw [show first = call from congrArg (·.getD call) isFirst]
      | some other =>
          obtain ⟨member, same⟩ := mem_of_firstBuilder? isFirst
          rw [show first = other from congrArg (·.getD call) isFirst]
          exact sameSettings other (isEarlier member) same
    rw [getsFirst, isOwn]
  · rcases getsOne result isOutcome with own | ⟨other, member, same, _, isBuilt⟩
    · exact own
    · rw [isBuilt, sameSettings other member same]

/-! ### Compilers with different settings -/

/-- A family of one result type, the arguments of a constructor. -/
inductive ArgumentsOnly
  | arguments
  deriving DecidableEq

instance : ResultFamily ArgumentsOnly where
  Carrier _ := List Value
  typeName _ := "Arguments"

/-- Targets with one slot for a name. -/
def nameCatalogue : Catalogue ArgumentsOnly where
  target _ identity :=
    { identity := identity
      members := [{ name := "name", declaredType := .primitive .string nofun }]
      factory := .positional .ok }
  identity_target _ _ := rfl

/-- A column whose name some compilers take for a placeholder. -/
def slotSchema : RowSchema where
  columns := [⟨"slot_5", .string, none⟩]

/-- A call of a compiler that takes the column for no placeholder. -/
def lenientCall : Call ArgumentsOnly :=
  ⟨{}, .arguments, "Name", slotSchema⟩

/-- A call of a compiler that takes the column for a placeholder, of no slot of the target. -/
def strictCall : Call ArgumentsOnly :=
  ⟨{ config := { placeholderStem := "slot_" } }, .arguments, "Name", slotSchema⟩

/-- A compiler gets a binder from the cache for columns that it refuses itself. -/
theorem isOk_outcomeAfter_lenientCall :
    strictCall.builtBy nameCatalogue strictCall.compiler =
        .error (.placeholderSlotOutOfRange "slot_5" 5 1) ∧
      (outcomeAfter nameCatalogue 0 [lenientCall] strictCall).isOk = true := by
  exact ⟨rfl, rfl⟩

theorem outcomeAfter_lenientCall :
    (∀ other ∈ [lenientCall, strictCall],
      other.key nameCatalogue = strictCall.key nameCatalogue → other.SameShape strictCall) ∧
      outcomeAfter nameCatalogue 0 [lenientCall] strictCall =
        strictCall.builtBy nameCatalogue lenientCall.compiler := by
  have exact : ∀ other ∈ [lenientCall, strictCall],
      other.key nameCatalogue = strictCall.key nameCatalogue → other.SameShape strictCall := by
    intro other member _
    rcases List.mem_pair.mp member with rfl | rfl <;> exact ⟨rfl, rfl, rfl⟩
  have isCall : [lenientCall, strictCall][1]? = some strictCall := rfl
  exact ⟨exact, (outcome_eq_builtBy nameCatalogue isCall exact).1 0⟩

end Outcome

end Call

end Compiler
end RowBinding
