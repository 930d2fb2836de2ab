import RowBinding.Binding.Cache
import RowBinding.Binding.Compiler

/-!
# Compiled binders in a store

Binders of different result types share one store, so an entry remembers the
type that its binder makes. A family of result types gives each of them a code,
and the codes tell whether an entry that was found is of the wanted type.

Every entry has the serial number that was drawn for its compilation. Two
requests got the same binder exactly when they got the same serial number.
-/

namespace RowBinding

/-- A family of result types: the type behind each code, and its name in keys. -/
class ResultFamily (κ : Type) where
  Carrier : κ → Type
  typeName : κ → String

/-- A binder in a store, with the type of what it makes. -/
structure CompiledEntry (κ : Type) [ResultFamily κ] where
  code : κ
  binder : Binder (ResultFamily.Carrier code)
  serial : Nat

namespace CompiledEntry

variable {κ : Type} [ResultFamily κ] [DecidableEq κ]

/-- The binder of an entry, if it makes objects of a given type. -/
def binderOf? (entry : CompiledEntry κ) (code : κ) :
    Option (Binder (ResultFamily.Carrier code)) :=
  if same : entry.code = code then some (same ▸ entry.binder) else none

@[simp] theorem binderOf?_self (entry : CompiledEntry κ) :
    entry.binderOf? entry.code = some entry.binder := by
  simp [binderOf?]

end CompiledEntry

namespace Compiler

variable {κ σ : Type} [ResultFamily κ] [DecidableEq κ]

/--
Get the binder of a target over a schema from a store, compiling it if needed.

The state is the store with the next serial number. Every request draws one, and
a newly compiled binder keeps it.
-/
def compile
    (compiler : Compiler)
    (store : CacheStore σ (CompiledEntry κ))
    (code : κ)
    (target : TargetDescriptor (ResultFamily.Carrier code))
    (schema : RowSchema) :
    StateM (σ × Nat) (Except BindError (Binder (ResultFamily.Carrier code) × Nat)) :=
  fun (state, serial) =>
    let key := Fingerprint.of (ResultFamily.typeName code) target schema
    let compute := fun (_ : Unit) =>
      (compiler.build (ResultFamily.typeName code) target schema).map fun binder =>
        ({ code := code, binder := binder, serial := serial } : CompiledEntry κ)
    match store.getOrCompute key compute state with
    | (.ok entry, state) =>
        match entry.binderOf? code with
        | some binder => (.ok (binder, entry.serial), (state, serial + 1))
        | none => (.error (.cacheTypeMismatch key.text), (state, serial + 1))
    | (.error error, state) => (.error error, (state, serial + 1))

/-- Get the binder of a target over a schema, without its serial number. -/
def binder
    (compiler : Compiler)
    (store : CacheStore σ (CompiledEntry κ))
    (code : κ)
    (target : TargetDescriptor (ResultFamily.Carrier code))
    (schema : RowSchema) :
    StateM (σ × Nat) (Except BindError (Binder (ResultFamily.Carrier code))) := do
  return (← compiler.compile store code target schema).map Prod.fst

end Compiler
end RowBinding
