import Denotation.Term.Path

/-!
# Exposed subterms

A subterm is exposed to a name if it occurs in the term and no binder over that name lies on the way
to it.  The uses of a bound variable that decide on its type are those that are exposed to its name in
the body of its binder.  A binder over an equally named variable of another type hides them too.
-/

namespace Denotation.Term

/-- The second term occurs in the first one, and no binder over the name lies between. -/
inductive Exposes (name : String) : Term → Term → Prop where
  | whole (term : Term) : Exposes name term term
  | binder {kind : BinderKind} {bound : Ident} {body subterm : Term} :
      bound.name ≠ name → Exposes name body subterm → Exposes name (.binder kind bound body) subterm
  | not {operand subterm : Term} :
      Exposes name operand subterm → Exposes name (.not operand) subterm
  | binaryLeft {connective : Connective} {left right subterm : Term} :
      Exposes name left subterm → Exposes name (.binary connective left right) subterm
  | binaryRight {connective : Connective} {left right subterm : Term} :
      Exposes name right subterm → Exposes name (.binary connective left right) subterm
  | equalLeft {left right subterm : Term} :
      Exposes name left subterm → Exposes name (.equal left right) subterm
  | equalRight {left right subterm : Term} :
      Exposes name right subterm → Exposes name (.equal left right) subterm
  | function {function argument subterm : Term} :
      Exposes name function subterm → Exposes name (.app function argument) subterm
  | argument {function argument subterm : Term} :
      Exposes name argument subterm → Exposes name (.app function argument) subterm

theorem OccursIn.of_part {term part subterm : Term} (number : Nat)
    (isPart : term.parts[number]? = some part) (occurs : OccursIn subterm part) :
    OccursIn subterm term := by
  obtain ⟨path, found⟩ := occurs
  exact ⟨number :: path, by rw [at?_cons, isPart, Option.bind_some, found]⟩

theorem Exposes.occursIn {name : String} {term subterm : Term}
    (exposed : Exposes name term subterm) : OccursIn subterm term := by
  induction exposed with
  | whole _ => exact ⟨[], rfl⟩
  | binder _ _ induction => exact .of_part 0 rfl induction
  | not _ induction => exact .of_part 0 rfl induction
  | binaryLeft _ induction => exact .of_part 0 rfl induction
  | binaryRight _ induction => exact .of_part 1 rfl induction
  | equalLeft _ induction => exact .of_part 0 rfl induction
  | equalRight _ induction => exact .of_part 1 rfl induction
  | function _ induction => exact .of_part 0 rfl induction
  | argument _ induction => exact .of_part 1 rfl induction

end Denotation.Term
