import RowBinding.Value

/-!
# Induction over expressions

Expressions stand in lists of arguments and in bindings of members. A property
holds of every expression if each kind of node passes it on from the
expressions that stand directly below.
-/

namespace RowBinding
namespace Expr

/-- The expression of a binding is smaller than the list that the binding is in. -/
theorem sizeOf_snd_lt_of_mem
    {bindings : List (MemberRef × Expr)}
    {binding : MemberRef × Expr}
    (inside : binding ∈ bindings) :
    sizeOf binding.2 < sizeOf bindings := by
  have smaller := List.sizeOf_lt_of_mem inside
  cases binding with
  | mk reference expression =>
      simp only [Prod.mk.sizeOf_spec] at smaller ⊢
      omega

section Induction

variable {motive : Expr → Prop}
  (lambda : ∀ parameters body, motive body → motive (.lambda parameters body))
  (parameter : ∀ name type, motive (.parameter name type))
  (constant : ∀ value type, motive (.constant value type))
  (member : ∀ owner reference, motive owner → motive (.member owner reference))
  (staticMember : ∀ reference, motive (.staticMember reference))
  (call : ∀ receiver method arguments, motive receiver →
    (∀ argument ∈ arguments, motive argument) →
      motive (.call receiver method arguments))
  (staticCall : ∀ method arguments, (∀ argument ∈ arguments, motive argument) →
    motive (.staticCall method arguments))
  (unary : ∀ operator operand type, motive operand →
    motive (.unary operator operand type))
  (binary : ∀ operator left right, motive left → motive right →
    motive (.binary operator left right))
  (binaryBy : ∀ operator left right method, motive left → motive right →
    motive (.binaryBy operator left right method))
  (conditional : ∀ test onTrue onFalse, motive test → motive onTrue →
    motive onFalse → motive (.conditional test onTrue onFalse))
  (construct : ∀ constructor arguments, (∀ argument ∈ arguments, motive argument) →
    motive (.construct constructor arguments))
  (memberInit : ∀ constructor arguments bindings,
    (∀ argument ∈ arguments, motive argument) →
      (∀ binding ∈ bindings, motive binding.2) →
        motive (.memberInit constructor arguments bindings))
  (listInit : ∀ constructor arguments items,
    (∀ argument ∈ arguments, motive argument) → (∀ item ∈ items, motive item) →
      motive (.listInit constructor arguments items))
  (newArray : ∀ elementType items, (∀ item ∈ items, motive item) →
    motive (.newArray elementType items))
  (defaultOf : ∀ type, motive (.defaultOf type))

include lambda parameter constant member staticMember call staticCall unary binary
  binaryBy conditional construct memberInit listInit newArray defaultOf

/-- Induction over expressions, with a hypothesis for every element of a list. -/
@[elab_as_elim]
theorem inductionOn : ∀ expression, motive expression
  | .lambda parameters body => lambda parameters body (inductionOn body)
  | .parameter name type => parameter name type
  | .constant value type => constant value type
  | .member owner reference => member owner reference (inductionOn owner)
  | .staticMember reference => staticMember reference
  | .call receiver method arguments =>
      call receiver method arguments (inductionOn receiver)
        fun argument _ => inductionOn argument
  | .staticCall method arguments =>
      staticCall method arguments fun argument _ => inductionOn argument
  | .unary operator operand type => unary operator operand type (inductionOn operand)
  | .binary operator left right =>
      binary operator left right (inductionOn left) (inductionOn right)
  | .binaryBy operator left right method =>
      binaryBy operator left right method (inductionOn left) (inductionOn right)
  | .conditional test onTrue onFalse =>
      conditional test onTrue onFalse (inductionOn test) (inductionOn onTrue)
        (inductionOn onFalse)
  | .construct constructor arguments =>
      construct constructor arguments fun argument _ => inductionOn argument
  | .memberInit constructor arguments bindings =>
      memberInit constructor arguments bindings
        (fun argument _ => inductionOn argument)
        (fun binding inside =>
          have _smaller : sizeOf binding.2 <
              sizeOf (Expr.memberInit constructor arguments bindings) := by
            have inBindings := sizeOf_snd_lt_of_mem inside
            simp only [Expr.memberInit.sizeOf_spec]
            omega
          inductionOn binding.2)
  | .listInit constructor arguments items =>
      listInit constructor arguments items
        (fun argument _ => inductionOn argument)
        (fun item _ => inductionOn item)
  | .newArray elementType items =>
      newArray elementType items fun item _ => inductionOn item
  | .defaultOf type => defaultOf type
termination_by expression => sizeOf expression
decreasing_by
  all_goals first
    | assumption
    | decreasing_tactic

end Induction

end Expr
end RowBinding
