import Denotation.Term.Typing
import Denotation.Term.Variables
import Denotation.Proofs.Outcome

/-!
# Typing without type variables

In a term in which no identifier has a type with type variables, typing is that of the simply typed
lambda calculus: nothing has to be aligned, and two types are compatible only if they are equal.
The rules of that system are stated once, and the derivation of types is shown to follow them in
such terms.

Every identifier carries its type, so a rule needs no context, and it does not matter which binder
an occurrence belongs to.
-/

namespace Denotation

theorem Ty.eq_of_compatible {expected found : Ty} (expectedConcrete : expected.hasVariables = false)
    (foundConcrete : found.hasVariables = false) (fits : expected.compatible found = true) :
    expected = found := by
  induction expected generalizing found with
  | const symbol =>
      cases found with
      | const other => simpa [compatible] using fits
      | var _ => simp [hasVariables] at foundConcrete
      | fn _ _ => simp [compatible] at fits
  | var symbol => simp [hasVariables] at expectedConcrete
  | fn domain range domainIH rangeIH =>
      cases found with
      | const _ => simp [compatible] at fits
      | var _ => simp [hasVariables] at foundConcrete
      | fn domain' range' =>
          simp only [hasVariables, Bool.or_eq_false_iff] at expectedConcrete foundConcrete
          simp only [compatible, Bool.and_eq_true] at fits
          rw [domainIH expectedConcrete.1 foundConcrete.1 fits.1,
            rangeIH expectedConcrete.2 foundConcrete.2 fits.2]

theorem Alignment.apply_empty (ty : Ty) : Alignment.empty.apply ty = ty := by
  induction ty with
  | const _ => rfl
  | var _ => rfl
  | fn _ _ domainIH rangeIH => simp only [apply, domainIH, rangeIH]

namespace Term

/-- No identifier of the term has a type with type variables. -/
def IsMonomorphic (term : Term) : Prop := ∀ id ∈ term.idents, id.ty.hasVariables = false

instance (term : Term) : Decidable term.IsMonomorphic :=
  inferInstanceAs (Decidable (∀ id ∈ term.idents, id.ty.hasVariables = false))

/-- The term has the type by rules in which no type variable takes part. -/
inductive SimplyTyped : Term → Ty → Prop where
  | ident (id : Ident) (concrete : id.ty.hasVariables = false) : SimplyTyped (.ident id) id.ty
  | lambda {bound : Ident} {body : Term} {range : Ty} (isVar : bound.isVar = true)
      (concrete : bound.ty.hasVariables = false) :
      SimplyTyped body range → SimplyTyped (.binder .lambda bound body) (.fn bound.ty range)
  | existential {bound : Ident} {body : Term} (isVar : bound.isVar = true)
      (concrete : bound.ty.hasVariables = false) :
      SimplyTyped body .truth → SimplyTyped (.binder .existential bound body) .truth
  | universal {bound : Ident} {body : Term} (isVar : bound.isVar = true)
      (concrete : bound.ty.hasVariables = false) :
      SimplyTyped body .truth → SimplyTyped (.binder .universal bound body) .truth
  | iota {bound : Ident} {body : Term} (isVar : bound.isVar = true)
      (concrete : bound.ty.hasVariables = false) :
      SimplyTyped body .truth → SimplyTyped (.binder .iota bound body) bound.ty
  | not {operand : Term} : SimplyTyped operand .truth → SimplyTyped (.not operand) .truth
  | binary {connective : Connective} {left right : Term} :
      SimplyTyped left .truth → SimplyTyped right .truth →
        SimplyTyped (.binary connective left right) .truth
  | equal {left right : Term} {side : Ty} :
      SimplyTyped left side → SimplyTyped right side → SimplyTyped (.equal left right) .truth
  | app {function argument : Term} {domain range : Ty} :
      SimplyTyped function (.fn domain range) → SimplyTyped argument domain →
        SimplyTyped (.app function argument) range

theorem SimplyTyped.concrete {term : Term} {ty : Ty} (typed : SimplyTyped term ty) :
    ty.hasVariables = false := by
  induction typed with
  | ident _ concrete => exact concrete
  | lambda _ concrete _ bodyIH => simp [Ty.hasVariables, concrete, bodyIH]
  | existential _ _ _ _ => rfl
  | universal _ _ _ _ => rfl
  | iota _ concrete _ _ => exact concrete
  | not _ _ => rfl
  | binary _ _ _ _ => rfl
  | equal _ _ _ _ => rfl
  | app _ _ functionIH _ =>
      simp only [Ty.hasVariables, Bool.or_eq_false_iff] at functionIH
      exact functionIH.2

theorem SimplyTyped.typeOf_eq {term : Term} {ty : Ty} (typed : SimplyTyped term ty) :
    term.typeOf = .ok ty := by
  induction typed with
  | ident id _ => rfl
  | lambda isVar concrete _ bodyIH =>
      simp [typeOf, isVar, concrete, bodyIH, Alignment.apply_empty, bind, Except.bind, pure,
        Except.pure]
  | existential isVar _ _ bodyIH =>
      simp [typeOf, isVar, bodyIH, fit, Ty.compatible_self, bind, Except.bind, pure, Except.pure]
  | universal isVar _ _ bodyIH =>
      simp [typeOf, isVar, bodyIH, fit, Ty.compatible_self, bind, Except.bind, pure, Except.pure]
  | iota isVar concrete _ bodyIH =>
      simp [typeOf, isVar, concrete, bodyIH, fit, Ty.compatible_self, Alignment.apply_empty, bind,
        Except.bind, pure, Except.pure]
  | not _ operandIH =>
      simp [typeOf, operandIH, fit, Ty.compatible_self, bind, Except.bind, pure, Except.pure]
  | binary _ _ leftIH rightIH =>
      simp [typeOf, leftIH, rightIH, fit, Ty.compatible_self, bind, Except.bind, pure, Except.pure]
  | equal _ _ leftIH rightIH =>
      simp [typeOf, leftIH, rightIH, fit, Ty.compatible_self, bind, Except.bind, pure, Except.pure]
  | app functionTyped _ functionIH argumentIH =>
      simp [typeOf, applicationType, functionIH, argumentIH, fit, Ty.compatible_self,
        functionTyped.concrete, bind, Except.bind, pure, Except.pure]

theorem fit_eq_ok_iff {expected found : Ty} {term : Term} {done : Unit} :
    fit expected term found = .ok done ↔ expected.compatible found = true := by
  unfold fit
  split <;> simp_all

/-- An operand that fits a type without variables has that type. -/
theorem SimplyTyped.of_fit {expected found : Ty} {term : Term} {done : Unit}
    (typed : SimplyTyped term found) (concrete : expected.hasVariables = false)
    (fits : fit expected term found = .ok done) : SimplyTyped term expected := by
  have same := Ty.eq_of_compatible concrete typed.concrete (fit_eq_ok_iff.mp fits)
  exact same ▸ typed

theorem simplyTyped_of_typeOf {term : Term} {ty : Ty} (monomorphic : term.IsMonomorphic)
    (typed : term.typeOf = .ok ty) : SimplyTyped term ty := by
  induction term generalizing ty with
  | ident id =>
      cases typed
      exact .ident id (monomorphic id (List.mem_singleton_self id))
  | binder kind bound body bodyIH =>
      obtain ⟨concrete, bodyMonomorphic⟩ := List.forall_mem_cons.mp monomorphic
      cases isVar : bound.isVar with
      | false => simp [typeOf, isVar] at typed
      | true =>
          cases kind with
          | lambda =>
              simp only [typeOf, isVar, concrete, if_true, Bool.false_eq_true, if_false,
                bind_eq_ok_iff, pure_eq_ok_iff, Except.ok.injEq] at typed
              obtain ⟨range, bodyTyped, alignment, rfl, rfl⟩ := typed
              rw [Alignment.apply_empty, Alignment.apply_empty]
              exact .lambda isVar concrete (bodyIH bodyMonomorphic bodyTyped)
          | existential =>
              simp only [typeOf, isVar, if_true, bind_eq_ok_iff, pure_eq_ok_iff] at typed
              obtain ⟨found, bodyTyped, _, fits, rfl⟩ := typed
              exact .existential isVar concrete
                ((bodyIH bodyMonomorphic bodyTyped).of_fit rfl fits)
          | universal =>
              simp only [typeOf, isVar, if_true, bind_eq_ok_iff, pure_eq_ok_iff] at typed
              obtain ⟨found, bodyTyped, _, fits, rfl⟩ := typed
              exact .universal isVar concrete ((bodyIH bodyMonomorphic bodyTyped).of_fit rfl fits)
          | iota =>
              simp only [typeOf, isVar, concrete, if_true, Bool.false_eq_true, if_false,
                bind_eq_ok_iff, pure_eq_ok_iff, Except.ok.injEq] at typed
              obtain ⟨found, bodyTyped, _, fits, alignment, rfl, rfl⟩ := typed
              rw [Alignment.apply_empty]
              exact .iota isVar concrete ((bodyIH bodyMonomorphic bodyTyped).of_fit rfl fits)
  | not operand operandIH =>
      simp only [typeOf, bind_eq_ok_iff, pure_eq_ok_iff] at typed
      obtain ⟨found, operandTyped, _, fits, rfl⟩ := typed
      exact .not ((operandIH monomorphic operandTyped).of_fit rfl fits)
  | binary connective left right leftIH rightIH =>
      obtain ⟨leftMonomorphic, rightMonomorphic⟩ := List.forall_mem_append.mp monomorphic
      simp only [typeOf, bind_eq_ok_iff, pure_eq_ok_iff] at typed
      obtain ⟨leftFound, leftTyped, _, leftFits, rightFound, rightTyped, _, rightFits, rfl⟩ := typed
      exact .binary ((leftIH leftMonomorphic leftTyped).of_fit rfl leftFits)
        ((rightIH rightMonomorphic rightTyped).of_fit rfl rightFits)
  | equal left right leftIH rightIH =>
      obtain ⟨leftMonomorphic, rightMonomorphic⟩ := List.forall_mem_append.mp monomorphic
      simp only [typeOf, bind_eq_ok_iff, pure_eq_ok_iff] at typed
      obtain ⟨side, leftTyped, found, rightTyped, _, fits, rfl⟩ := typed
      have leftSide := leftIH leftMonomorphic leftTyped
      exact .equal leftSide ((rightIH rightMonomorphic rightTyped).of_fit leftSide.concrete fits)
  | app function argument functionIH argumentIH =>
      obtain ⟨functionMonomorphic, argumentMonomorphic⟩ := List.forall_mem_append.mp monomorphic
      simp only [typeOf, bind_eq_ok_iff] at typed
      obtain ⟨functionTy, functionTyped, found, argumentTyped, applied⟩ := typed
      have functionSimple := functionIH functionMonomorphic functionTyped
      cases functionTy with
      | const _ => simp [applicationType] at applied
      | var _ => simp [applicationType] at applied
      | fn domain range =>
          have concrete := functionSimple.concrete
          simp only [applicationType, concrete, Bool.false_eq_true, if_false, bind_eq_ok_iff,
            pure_eq_ok_iff] at applied
          obtain ⟨_, fits, rfl⟩ := applied
          simp only [Ty.hasVariables, Bool.or_eq_false_iff] at concrete
          exact .app functionSimple
            ((argumentIH argumentMonomorphic argumentTyped).of_fit concrete.1 fits)

end Term

end Denotation
