import Mathlib.Data.List.Induction
import Mathlib.Logic.Function.Basic
import RowBinding.Proofs.Binding.Cache.Agreement
import RowBinding.Proofs.Binding.Compilation
import RowBinding.Proofs.Binding.Refusals

/-!
# The result types of kept binders

Binders of all result types are kept in the same caches, and one that was found
under a key is only known to be of the wanted type by the key. A key begins with
the name of the type, which ends at the first separator, and neither an identity
nor the name of a column reaches in front of that.

So if the names of types are different and without separators, the entry under a
key is of the type that the key begins with. A request then gets a binder, or
fails as its own compiler does, whatever was requested from the cache before or
is requested beside it.
-/

namespace RowBinding

/-! ## The type that a key names -/

namespace Fingerprint

/-- The key begins with the name of a result type and a separator. -/
def Names (key : Fingerprint) (typeName : String) : Prop :=
  ∃ rest, key.text.toList = typeName.toList ++ '|' :: rest

theorem names_of
    {τ : Type}
    (typeName : String)
    (target : TargetDescriptor τ)
    (schema : RowSchema) :
    (of typeName target schema).Names typeName :=
  ⟨_, toList_text_of typeName target schema⟩

/-- A key names one type, as long as no name has a separator. -/
theorem Names.unique
    {key : Fingerprint}
    {typeName otherName : String}
    (named : key.Names typeName)
    (otherNamed : key.Names otherName)
    (plainName : '|' ∉ typeName.toList)
    (plainOther : '|' ∉ otherName.toList) :
    typeName = otherName := by
  obtain ⟨rest, isKey⟩ := named
  obtain ⟨otherRest, isOtherKey⟩ := otherNamed
  have same := isKey.symm.trans isOtherKey
  exact String.toList_inj.mp (Text.append_separator_inj plainName plainOther same).1

end Fingerprint

namespace Compiler

/-! ## The failures of a compilation -/

/-- A compilation can stop with the error. -/
def StopsWith : BindError → Prop
  | .unsupportedColumnType _ _ | .unsupportedConversion _ _ _
  | .nonJsonColumnForJsonMember _ _ | .placeholderSlotOutOfRange _ _ _
  | .missingSetter _ _ | .noColumns _ => True
  | _ => False

section Failures

variable
  {τ : Type}
  {compiler : Compiler}
  {target : TargetDescriptor τ}
  {column : ColumnDescriptor}
  {error : BindError}

theorem stopsWith_of_refusal?
    {member : MemberDescriptor τ}
    (refused : refusal? column member = some error) :
    StopsWith error := by
  rw [refusal?, Outcome.error?_eq_some_iff] at refused
  unfold planColumn at refused
  split at refused
  · cases refused
    trivial
  · dsimp only at refused
    split at refused
    · split at refused <;> cases refused
      trivial
    · split at refused <;> cases refused
      trivial

theorem stopsWith_of_stop?
    (stopped : compiler.stop? target column = some error) :
    StopsWith error := by
  unfold stop? at stopped
  split at stopped
  · split at stopped
    · cases stopped
      trivial
    · exact stopsWith_of_refusal? stopped
  · split at stopped
    · rw [Outcome.error?_eq_some_iff, checkPlaceholder] at stopped
      split at stopped
      · split at stopped <;> cases stopped
        trivial
      · cases stopped
    · cases stopped

/-- A compilation fails for a column that it cannot bind, or for want of one. -/
theorem stopsWith_of_build
    {typeName : String}
    {schema : RowSchema}
    (fails : compiler.build typeName target schema = .error error) :
    StopsWith error := by
  by_cases isScalar : ∃ make, target.factory = .scalar make
  · obtain ⟨make, made⟩ := isScalar
    rw [← Outcome.error?_eq_some_iff, build, made] at fails
    dsimp only at fails
    rw [Outcome.error?_bind_pure, planScalar] at fails
    split at fails
    · rw [Outcome.error?_eq_some_iff, Outcome.map_eq_error_iff,
        ← Outcome.error?_eq_some_iff, error?_planColumn] at fails
      exact stopsWith_of_refusal? fails
    · cases fails
      trivial
  · have notScalar (make) (made : target.factory = .scalar make) : False := isScalar ⟨make, made⟩
    rw [← Outcome.error?_eq_some_iff, error?_build notScalar] at fails
    obtain ⟨column, _, stopped⟩ := List.exists_of_findSome?_eq_some fails
    exact stopsWith_of_stop? stopped

end Failures

/-! ## Requests for binders -/

/-- Who compiles a binder, for which result type and target, and over which schema. -/
structure BinderRequest (κ : Type) [ResultFamily κ] where
  compiler : Compiler
  code : κ
  target : TargetDescriptor (ResultFamily.Carrier code)
  schema : RowSchema

variable {κ : Type} [ResultFamily κ]

namespace BinderRequest

/-- The key that a request asks a cache for. -/
def key (request : BinderRequest κ) : Fingerprint :=
  .of (ResultFamily.typeName request.code) request.target request.schema

/-- What the compiler of a request builds without a cache. -/
def build (request : BinderRequest κ) :
    Except BindError (Binder (ResultFamily.Carrier request.code)) :=
  request.compiler.build (ResultFamily.typeName request.code) request.target request.schema

/-- The entry that a request computes if its key has none. -/
def entry (request : BinderRequest κ) (serial : Nat) : Except BindError (CompiledEntry κ) :=
  request.compiler.newEntry request.code request.target request.schema serial

/-- Run a request on a cache. -/
def compile [DecidableEq κ] (request : BinderRequest κ) :
    StateM (BindingCache (CompiledEntry κ) × Nat)
      (Except BindError (Binder (ResultFamily.Carrier request.code) × Nat)) :=
  request.compiler.compile (BindingCache.store (CompiledEntry κ)) request.code request.target
    request.schema

/-- The outcome of a request from what a cache returns for its key. -/
def outcome [DecidableEq κ]
    (request : BinderRequest κ)
    (returned : Except BindError (CompiledEntry κ)) :
    Except BindError (Binder (ResultFamily.Carrier request.code) × Nat) :=
  returned >>= takeBinder request.code request.key

/-- An entry is of the result type that its key names. -/
def Fits (key : Fingerprint) (entry : CompiledEntry κ) : Prop :=
  key.Names (ResultFamily.typeName entry.code)

theorem fits_entry
    {request : BinderRequest κ}
    {serial : Nat}
    {entry : CompiledEntry κ}
    (computes : request.entry serial = .ok entry) :
    Fits request.key entry := by
  obtain ⟨binder, _, rfl⟩ := Outcome.map_eq_ok_iff.mp computes
  exact Fingerprint.names_of _ _ _

/-- Different result types have different names, without separators. -/
structure PlainNames (κ : Type) [ResultFamily κ] : Prop where
  distinct : Function.Injective (ResultFamily.typeName : κ → String)
  plain : ∀ code : κ, '|' ∉ (ResultFamily.typeName code).toList

variable {request : BinderRequest κ} {cache : BindingCache (CompiledEntry κ)}

theorem code_eq_of_fits
    {entry : CompiledEntry κ}
    (names : PlainNames κ)
    (fits : Fits request.key entry) :
    entry.code = request.code :=
  names.distinct
    (fits.unique (Fingerprint.names_of _ _ _) (names.plain _) (names.plain _))

/-- A cache whose entries are of the types that their keys name. -/
structure KeepsTypes (cache : BindingCache (CompiledEntry κ)) : Prop where
  sound : cache.Sound
  fits : ∀ {key : Fingerprint} {entry : CompiledEntry κ},
    cache.get? key = some entry → Fits key entry

theorem keepsTypes_empty : KeepsTypes ({} : BindingCache (CompiledEntry κ)) :=
  ⟨BindingCache.sound_empty, nofun⟩

theorem keepsTypes_clear (cache : BindingCache (CompiledEntry κ)) :
    KeepsTypes ((BindingCache.store (CompiledEntry κ)).clear cache) where
  sound := ⟨List.nodup_nil, nofun, nofun⟩
  fits := nofun

theorem KeepsTypes.fits_answer
    {serial : Nat}
    {entry : CompiledEntry κ}
    (keeps : KeepsTypes cache)
    (answers : BindingCache.answer (cache.get? request.key) (request.entry serial) = .ok entry) :
    Fits request.key entry := by
  cases kept : cache.get? request.key with
  | none =>
      rw [kept] at answers
      exact fits_entry answers
  | some found =>
      rw [kept] at answers
      cases answers
      exact keeps.fits kept

variable [DecidableEq κ]

/-- A request that gets entries of the type that its key names, and only failures of its
own, fails only as its own compiler does. -/
theorem build_eq_error_of_outcome
    {returned : Except BindError (CompiledEntry κ)}
    {error : BindError}
    (names : PlainNames κ)
    (fits : ∀ entry, returned = .ok entry → Fits request.key entry)
    (own : ∀ error, returned = .error error → request.build = .error error)
    (fails : request.outcome returned = .error error) :
    request.build = .error error := by
  cases returned with
  | error cause =>
      cases fails
      exact own error rfl
  | ok entry =>
      obtain ⟨compiler, code, target, schema⟩ := request
      obtain ⟨entryCode, binder, serial⟩ := entry
      obtain rfl : entryCode = code := code_eq_of_fits names (fits _ rfl)
      have taken := (takeBinder_mk _ _ binder serial).symm.trans fails
      cases taken

/-! ## Requests to several caches, one after another -/

theorem fst_compile (request : BinderRequest κ) (serial : Nat) :
    (request.compile (cache, serial)).1 =
      request.outcome
        (BindingCache.answer (cache.get? request.key) (request.entry serial)) := by
  unfold compile
  rw [compile_apply]
  rfl

theorem get?_compile
    (sound : cache.Sound)
    (request : BinderRequest κ)
    (serial : Nat)
    (key : Fingerprint) :
    (request.compile (cache, serial)).2.1.get? key =
      if key = request.key then
        (BindingCache.answer (cache.get? request.key) (request.entry serial)).toOption
      else cache.get? key := by
  unfold compile
  rw [compile_apply]
  exact BindingCache.get?_getOrCompute sound _ _ _

/-- A request leaves every entry of the type that its key names. -/
theorem KeepsTypes.compile
    (keeps : KeepsTypes cache)
    (request : BinderRequest κ)
    (serial : Nat) :
    KeepsTypes (request.compile (cache, serial)).2.1 where
  sound := by
    unfold BinderRequest.compile
    rw [compile_apply]
    exact keeps.sound.getOrCompute _ _
  fits := by
    intro key entry kept
    rw [get?_compile keeps.sound] at kept
    split at kept
    · next isKey =>
        rw [isKey]
        exact keeps.fits_answer (Outcome.toOption_eq_some_iff.mp kept)
    · exact keeps.fits kept

theorem KeepsTypes.build_eq_error_of_compile
    {serial : Nat}
    {error : BindError}
    (keeps : KeepsTypes cache)
    (names : PlainNames κ)
    (fails : (request.compile (cache, serial)).1 = .error error) :
    request.build = .error error := by
  rw [fst_compile] at fails
  refine build_eq_error_of_outcome names (fun entry => keeps.fits_answer) ?_ fails
  intro cause answers
  cases kept : cache.get? request.key with
  | none =>
      rw [kept] at answers
      exact Outcome.map_eq_error_iff.mp answers
  | some found =>
      rw [kept] at answers
      cases answers

/-- What is done to one of several caches. -/
inductive Action (ι κ : Type) [ResultFamily κ]
  | compile (place : ι) (request : BinderRequest κ)
  | clear (place : ι)

section Sequence

variable {ι : Type} [DecidableEq ι]

/-- The caches and the next serial number behind an action. -/
def perform
    (state : (ι → BindingCache (CompiledEntry κ)) × Nat) :
    Action ι κ → (ι → BindingCache (CompiledEntry κ)) × Nat
  | .compile place request =>
      let moved := (request.compile (state.1 place, state.2)).2
      (Function.update state.1 place moved.1, moved.2)
  | .clear place =>
      (Function.update state.1 place
        ((BindingCache.store (CompiledEntry κ)).clear (state.1 place)), state.2)

/-- The caches, all empty at first, and the next serial number after some actions. -/
def after (serial : Nat) (actions : List (Action ι κ)) :
    (ι → BindingCache (CompiledEntry κ)) × Nat :=
  actions.foldl perform (fun _ => {}, serial)

/-- What a request to a cache gets after some actions on this and other caches. -/
def outcomeAfter
    (serial : Nat)
    (actions : List (Action ι κ))
    (place : ι)
    (request : BinderRequest κ) :
    Except BindError (Binder (ResultFamily.Carrier request.code) × Nat) :=
  (request.compile ((after serial actions).1 place, (after serial actions).2)).1

theorem keepsTypes_perform
    {state : (ι → BindingCache (CompiledEntry κ)) × Nat}
    (keeps : ∀ place, KeepsTypes (state.1 place))
    (action : Action ι κ)
    (place : ι) :
    KeepsTypes ((perform state action).1 place) := by
  cases action with
  | compile changed request =>
      unfold perform
      by_cases same : place = changed
      · subst same
        dsimp only
        rw [Function.update_self]
        exact (keeps place).compile request state.2
      · dsimp only
        rw [Function.update_of_ne same]
        exact keeps place
  | clear changed =>
      unfold perform
      by_cases same : place = changed
      · subst same
        dsimp only
        rw [Function.update_self]
        exact keepsTypes_clear _
      · dsimp only
        rw [Function.update_of_ne same]
        exact keeps place

theorem keepsTypes_after
    (serial : Nat)
    (actions : List (Action ι κ))
    (place : ι) :
    KeepsTypes ((after serial actions).1 place) := by
  induction actions using List.reverseRecOn generalizing place with
  | nil => exact keepsTypes_empty
  | append_singleton actions last inductionHypothesis =>
      rw [after, List.foldl_append]
      exact keepsTypes_perform inductionHypothesis last place

/-- Result types that share a key are mistaken for each other. -/
theorem outcomeAfter_eq_cacheTypeMismatch
    {other : BinderRequest κ}
    {binder : Binder (ResultFamily.Carrier other.code)}
    (different : other.code ≠ request.code)
    (sameKey : request.key = other.key)
    (builds : other.build = .ok binder)
    (serial : Nat)
    (place : ι) :
    outcomeAfter serial [.compile place other] place request =
      .error (.cacheTypeMismatch request.key.text) := by
  have computes : other.entry serial = .ok ⟨other.code, binder, serial⟩ :=
    congrArg (Except.map _) builds
  have kept : (other.compile (({} : BindingCache (CompiledEntry κ)), serial)).2.1.get?
      request.key = some ⟨other.code, binder, serial⟩ := by
    rw [get?_compile BindingCache.sound_empty, if_pos sameKey, computes]
    rfl
  rw [outcomeAfter, after, List.foldl_cons, List.foldl_nil, perform]
  dsimp only
  rw [Function.update_self, fst_compile, kept]
  have notOf : CompiledEntry.binderOf? ⟨other.code, binder, serial⟩ request.code = none :=
    dif_neg different
  rw [BindingCache.answer, outcome, Outcome.ok_bind, takeBinder, notOf]

end Sequence

/-! ## Requests to one cache, beside each other -/

/-- What a request at some position can get if the steps of all requests are taken in some
order, every one of them computing its own entry. -/
def IsOutcomeBeside
    (requests : List (BinderRequest κ))
    (position : Nat)
    (request : BinderRequest κ)
    (result : Except BindError (Binder (ResultFamily.Carrier request.code) × Nat)) : Prop :=
  ∃ (shared : BindingCache.Shared (CompiledEntry κ))
    (computed : Nat → Except BindError (CompiledEntry κ))
    (asking : BindingCache.Request (CompiledEntry κ))
    (returned : Except BindError (CompiledEntry κ)),
    BindingCache.Shared.Reaches (.start {} (requests.map key)) shared ∧
      (∀ place other, requests[place]? = some other →
        ∃ serial, computed place = other.entry serial) ∧
      shared.Follows computed ∧ requests[position]? = some request ∧
      shared.requests[position]? = some asking ∧ asking.phase.result? = some returned ∧
      result = request.outcome returned

theorem IsOutcomeBeside.build_eq_error
    {requests : List (BinderRequest κ)}
    {position : Nat}
    {result : Except BindError (Binder (ResultFamily.Carrier request.code) × Nat)}
    {error : BindError}
    (isOutcome : IsOutcomeBeside requests position request result)
    (names : PlainNames κ)
    (fails : result = .error error) :
    request.build = .error error := by
  obtain ⟨shared, computed, asking, returned, run, computes, follows, isRequest, found,
    returns, rfl⟩ := isOutcome
  have settled := BindingCache.Shared.settled?_of_result? returns
  refine build_eq_error_of_outcome names ?_ ?_ fails
  · rintro entry rfl
    have isKey : asking.key = request.key := by
      have sameKey := congrArg (·[position]?) run.map_key
      simpa [found, isRequest] using sameKey
    obtain ⟨place, isPlace, yields⟩ :=
      (BindingCache.Shared.sourced_of_reaches run follows).settled found settled
    rw [List.getElem?_map, Option.map_eq_some_iff] at isPlace
    obtain ⟨other, isOther, sameKey⟩ := isPlace
    obtain ⟨serial, isEntry⟩ := computes place other isOther
    rw [← isKey, ← sameKey]
    exact fits_entry (isEntry.symm.trans yields)
  · rintro cause rfl
    have wellFormed := (BindingCache.Shared.wellFormed_start _).reaches run
    have missed := wellFormed.missed_of_error found settled
    obtain ⟨serial, isEntry⟩ := computes position request isRequest
    exact Outcome.map_eq_error_iff.mp (isEntry.symm.trans (follows found missed settled).symm)

/-! ## What a request gets -/

/--
No request gets a binder that was kept for another result type.

The requests may go to any of several caches, which are also cleared now and then, or
beside each other to one cache. Their compilers, targets and schemas are their own, and
some of them may fail.
-/
theorem outcome_ne_cacheTypeMismatch
    {ι : Type}
    [DecidableEq ι]
    (distinct : Function.Injective (ResultFamily.typeName : κ → String))
    (plain : ∀ code : κ, '|' ∉ (ResultFamily.typeName code).toList)
    (request : BinderRequest κ)
    (fingerprint : String) :
    (∀ (serial : Nat) (actions : List (Action ι κ)) (place : ι),
      outcomeAfter serial actions place request ≠ .error (.cacheTypeMismatch fingerprint)) ∧
      ∀ (requests : List (BinderRequest κ)) (position : Nat) result,
        IsOutcomeBeside requests position request result →
          result ≠ .error (.cacheTypeMismatch fingerprint) := by
  have names : PlainNames κ := ⟨distinct, plain⟩
  have noCompilation : request.build ≠ .error (.cacheTypeMismatch fingerprint) :=
    fun fails => stopsWith_of_build fails
  constructor
  · intro serial actions place fails
    have keeps := keepsTypes_after serial actions place
    exact noCompilation (keeps.build_eq_error_of_compile names fails)
  · intro requests position result isOutcome fails
    exact noCompilation (isOutcome.build_eq_error names fails)

/-! ### Names of which one goes on from the other -/

/-- Orders and their lines. -/
inductive OrderPart
  | order
  | line
  deriving DecidableEq

instance : ResultFamily OrderPart where
  Carrier
    | .order => List Value
    | .line => Value
  typeName
    | .order => "Order"
    | .line => "OrderLine"

theorem integer_ne_time (kind : IntegerKind) : DataType.integer kind ≠ .time :=
  nofun

/-- A column that the requests for orders and lines are for. -/
def idSchema : RowSchema where
  columns := [⟨"id", .integer .int64, some false⟩]

/-- A request for orders whose identity reads like the end of the other name. -/
def orderRequest : BinderRequest OrderPart where
  compiler := {}
  code := .order
  target :=
    { identity := "Line|OrderLine|"
      members :=
        [{ name := "id", declaredType := .primitive (.integer .int64) (integer_ne_time .int64) }]
      factory := .positional .ok }
  schema := idSchema

/-- A request for lines over some columns. -/
def lineRequest (schema : RowSchema) : BinderRequest OrderPart where
  compiler := {}
  code := .line
  target := .scalar "|Order|" (.primitive (.integer .int64) (integer_ne_time .int64)) false .ok
  schema := schema

/-- Requests to two caches, of which the first fails for want of a column. -/
def orderActions : List (Action Bool OrderPart) :=
  [.compile true (lineRequest ⟨[]⟩), .compile true (lineRequest idSchema),
    .compile false orderRequest, .clear false, .compile true orderRequest]

theorem outcomeAfter_orderActions :
    Function.Injective (ResultFamily.typeName : OrderPart → String) ∧
      (∀ code : OrderPart, '|' ∉ (ResultFamily.typeName code).toList) ∧
      (outcomeAfter 0 orderActions true (lineRequest idSchema)).isOk = true ∧
      outcomeAfter 0 orderActions true (lineRequest ⟨[]⟩) = .error (.noColumns "|Order|") ∧
      outcomeAfter 0 orderActions true (lineRequest ⟨[]⟩) ≠
        .error (.cacheTypeMismatch (lineRequest ⟨[]⟩).key.text) := by
  have distinct : Function.Injective (ResultFamily.typeName : OrderPart → String) := by
    intro code other same
    cases code <;> cases other <;> first | rfl | exact absurd same (by decide)
  have plain (code : OrderPart) : '|' ∉ (ResultFamily.typeName code).toList := by
    cases code <;> decide
  exact ⟨distinct, plain, rfl, rfl, (outcome_ne_cacheTypeMismatch distinct plain
    (lineRequest ⟨[]⟩) (lineRequest ⟨[]⟩).key.text).1 0 orderActions true⟩

end BinderRequest
end Compiler
end RowBinding
