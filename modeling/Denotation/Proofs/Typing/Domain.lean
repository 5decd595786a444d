import Mathlib.Data.Nat.Basic
import Denotation.Proofs.Typing.Matching
import Denotation.Proofs.Typing.Uses
import Denotation.Term.Exposure

/-!
# The domain of an abstraction

The uses of a bound variable are visited one by one, and each of them refines what the earlier ones have
left.  A use at a type without variables turns the type of the variable into that type, and since no later
refinement takes a binding back, the domain of the abstraction is what every such use asks for.  A variable
whose type has no variables is not specialized at all; here the checks made while the body was typed say
the same.
-/

namespace Denotation

namespace Term

variable {bound : Ident} {alignment next before after reached : Alignment} {term node : Term}
  {variableSided expected ty : Ty}

/-- Where the node uses the variable at a type without variables, the domain is of that type. -/
def UsesAs (node : Term) (bound : Ident) (domain : Ty) : Prop :=
  match node with
  | .ident _ => True
  | .binder kind inner body =>
      kind ≠ .lambda → inner.name ≠ bound.name → body = .ident bound → domain = .truth
  | .not operand => operand = .ident bound → domain = .truth
  | .binary _ left right => left = .ident bound ∨ right = .ident bound → domain = .truth
  | .equal left right =>
      (left = .ident bound →
        ∀ ty, right.typeOf = .ok ty → ty.hasVariables = false → domain = ty) ∧
      (right = .ident bound →
        ∀ ty, left.typeOf = .ok ty → ty.hasVariables = false → domain = ty)
  | .app function argument =>
      (argument = .ident bound → ∀ ty range, function.typeOf = .ok (.fn ty range) →
        ty.hasVariables = false → domain = ty) ∧
      (function = .ident bound → ∀ ty, argument.typeOf = .ok ty → ty.hasVariables = false →
        ∃ range, domain = .fn ty range)

/-- Typing the node compares the type of the variable with what it is used as, and without type variables
there they are the same. -/
theorem usesAs_of_concrete (typed : node.typeOf = .ok ty) (concrete : bound.ty.hasVariables = false) :
    node.UsesAs bound bound.ty := by
  have isTruth : ∀ found, (Term.ident bound).typeOf = .ok found → Ty.truth.compatible found = true →
      bound.ty = .truth := by
    intro found isTy fits
    cases isTy
    exact (Ty.eq_of_compatible rfl concrete fits).symm
  cases node with
  | ident id => trivial
  | binder kind inner body =>
      intro notLambda _ isUse
      subst isUse
      obtain ⟨found, bodyTyped, fits⟩ := exists_truth_of_typeOf_binder notLambda typed
      exact isTruth found bodyTyped fits
  | not operand =>
      intro isUse
      subst isUse
      obtain ⟨⟨found, operandTyped, fits⟩, -⟩ := typeOf_not_eq_ok_iff.mp typed
      exact isTruth found operandTyped fits
  | binary connective left right =>
      obtain ⟨⟨leftTy, leftTyped, leftFits⟩, ⟨rightTy, rightTyped, rightFits⟩, -⟩ :=
        typeOf_binary_eq_ok_iff.mp typed
      intro isUse
      rcases isUse with atLeft | atRight
      · subst atLeft
        exact isTruth leftTy leftTyped leftFits
      · subst atRight
        exact isTruth rightTy rightTyped rightFits
  | equal left right =>
      obtain ⟨leftTy, rightTy, leftTyped, rightTyped, fits, -⟩ := typeOf_equal_eq_ok_iff.mp typed
      constructor
      · intro isUse side sideTyped sideConcrete
        subst isUse
        cases leftTyped
        cases rightTyped.symm.trans sideTyped
        exact Ty.eq_of_compatible concrete sideConcrete fits
      · intro isUse side sideTyped sideConcrete
        subst isUse
        cases rightTyped
        cases leftTyped.symm.trans sideTyped
        exact (Ty.eq_of_compatible sideConcrete concrete fits).symm
  | app function argument =>
      obtain ⟨domain, range, argumentTy, functionTyped, argumentTyped, fits, -⟩ :=
        typeOf_app_eq_ok_iff.mp typed
      constructor
      · intro isUse domain' range' functionTyped' domainConcrete
        subst isUse
        cases argumentTyped
        cases functionTyped.symm.trans functionTyped'
        exact (Ty.eq_of_compatible domainConcrete concrete fits).symm
      · intro isUse argumentTy' argumentTyped' argumentConcrete
        subst isUse
        simp only [typeOf, Except.ok.injEq] at functionTyped
        cases argumentTyped.symm.trans argumentTyped'
        rw [functionTyped, Ty.hasVariables, Bool.or_eq_false_iff] at concrete
        refine ⟨range, ?_⟩
        rw [functionTyped, Ty.eq_of_compatible concrete.1 argumentConcrete fits]

theorem outlastsRefinement_extends (start : Alignment) :
    OutlastsRefinement fun alignment => alignment.Extends start :=
  fun _ _ _ _ _ isExtension refined => (Alignment.extends_of_refine refined).trans isExtension

theorem outlastsRefinement_apply (variableSided : Ty) (concrete : ty.hasVariables = false) :
    OutlastsRefinement fun alignment => alignment.apply variableSided = ty :=
  fun _ _ _ _ _ applied refined => (Alignment.extends_of_refine refined).apply_eq applied concrete

theorem extends_of_alignUses (aligned : term.alignUses bound alignment = .ok next) :
    next.Extends alignment :=
  (outlastsRefinement_extends alignment).alignUses (.refl alignment) aligned

theorem apply_of_constrain (constrained : constrain alignment variableSided expected = .ok next)
    (concrete : expected.hasVariables = false) : next.apply variableSided = expected := by
  rw [constrain, concrete, if_neg Bool.false_ne_true, mapError_eq_ok_iff] at constrained
  exact (Alignment.hasInstance_of_refine constrained).eq_of_not_hasVariables concrete

theorem apply_of_constrainUse
    (constrained : constrainUse alignment bound (.ident bound) .truth = .ok next) :
    next.apply bound.ty = .truth := by
  rw [constrainUse, if_pos rfl] at constrained
  exact apply_of_constrain constrained rfl

theorem apply_of_constrainSide {other : Term}
    (constrained : constrainSide alignment bound (.ident bound) other = .ok next)
    (otherTyped : other.typeOf = .ok ty) (concrete : ty.hasVariables = false) :
    next.apply bound.ty = ty := by
  rw [constrainSide, if_pos rfl, otherTyped] at constrained
  exact apply_of_constrain constrained concrete

theorem apply_of_constrainArgument {function : Term} {range : Ty}
    (constrained : constrainArgument alignment bound function (.ident bound) = .ok next)
    (functionTyped : function.typeOf = .ok (.fn ty range)) (concrete : ty.hasVariables = false) :
    next.apply bound.ty = ty := by
  rw [constrainArgument, if_pos rfl, functionTyped] at constrained
  exact apply_of_constrain constrained concrete

theorem apply_of_constrainFunction {argument : Term} {domain range : Ty}
    (constrained : constrainFunction alignment bound (.ident bound) argument = .ok next)
    (isFunction : bound.ty = .fn domain range) (argumentTyped : argument.typeOf = .ok ty)
    (concrete : ty.hasVariables = false) : next.apply domain = ty := by
  rw [constrainFunction, if_pos rfl, isFunction, argumentTyped] at constrained
  exact apply_of_constrain constrained concrete

/-- The walk through the uses of a bound variable comes to every exposed node, and keeps to the end what it
has bound there. -/
theorem exists_visit_of_exposes (exposed : Exposes bound.name term node)
    (aligned : term.alignUses bound alignment = .ok reached) :
    ∃ before after, node.alignUses bound before = .ok after ∧ reached.Extends after := by
  -- The induction goes down to the node.  The walk goes on above it afterwards, and only adds bindings.
  induction exposed generalizing alignment reached with
  | whole term => exact ⟨alignment, reached, aligned, .refl reached⟩
  | binder differ _ bodyIH =>
      rw [alignUses_binder, if_neg differ] at aligned
      obtain ⟨_, -, bodyAligned⟩ := bind_eq_ok_iff.mp aligned
      exact bodyIH bodyAligned
  | not _ operandIH =>
      obtain ⟨_, -, operandAligned⟩ := bind_eq_ok_iff.mp aligned
      exact operandIH operandAligned
  | binaryLeft _ leftIH =>
      simp only [alignUses, bind_eq_ok_iff] at aligned
      obtain ⟨_, -, inLeft, leftAligned, atRight, rightUsed, rightAligned⟩ := aligned
      obtain ⟨before, after, visited, isExtension⟩ := leftIH leftAligned
      have rightExtends := (outlastsRefinement_extends after).constrainUse isExtension rightUsed
      exact ⟨before, after, visited, (extends_of_alignUses rightAligned).trans rightExtends⟩
  | binaryRight _ rightIH =>
      simp only [alignUses, bind_eq_ok_iff] at aligned
      obtain ⟨_, -, _, -, _, -, rightAligned⟩ := aligned
      exact rightIH rightAligned
  | equalLeft _ leftIH =>
      simp only [alignUses_equal, bind_eq_ok_iff] at aligned
      obtain ⟨_, -, _, -, inLeft, leftAligned, rightAligned⟩ := aligned
      obtain ⟨before, after, visited, isExtension⟩ := leftIH leftAligned
      exact ⟨before, after, visited, (extends_of_alignUses rightAligned).trans isExtension⟩
  | equalRight _ rightIH =>
      simp only [alignUses_equal, bind_eq_ok_iff] at aligned
      obtain ⟨_, -, _, -, _, -, rightAligned⟩ := aligned
      exact rightIH rightAligned
  | function _ functionIH =>
      simp only [alignUses_app, bind_eq_ok_iff] at aligned
      obtain ⟨_, -, _, -, inFunction, functionAligned, argumentAligned⟩ := aligned
      obtain ⟨before, after, visited, isExtension⟩ := functionIH functionAligned
      exact ⟨before, after, visited, (extends_of_alignUses argumentAligned).trans isExtension⟩
  | argument _ argumentIH =>
      simp only [alignUses_app, bind_eq_ok_iff] at aligned
      obtain ⟨_, -, _, -, _, -, argumentAligned⟩ := aligned
      exact argumentIH argumentAligned

/-- Visiting a node aligns the type of the variable with what the node uses it as. -/
theorem usesAs_of_visit (typed : node.typeOf = .ok ty)
    (visited : node.alignUses bound before = .ok after) (isExtension : reached.Extends after) :
    node.UsesAs bound (reached.apply bound.ty) := by
  have truthLasts : OutlastsRefinement fun alignment => alignment.apply bound.ty = .truth :=
    outlastsRefinement_apply bound.ty rfl
  cases node with
  | ident id => trivial
  | binder kind inner body =>
      intro notLambda differ isUse
      rw [alignUses_binder, if_neg differ, if_neg notLambda] at visited
      obtain ⟨atBody, bodyUsed, bodyAligned⟩ := bind_eq_ok_iff.mp visited
      subst isUse
      have afterBody := truthLasts.alignUses (apply_of_constrainUse bodyUsed) bodyAligned
      exact isExtension.apply_eq afterBody rfl
  | not operand =>
      intro isUse
      obtain ⟨atOperand, operandUsed, operandAligned⟩ := bind_eq_ok_iff.mp visited
      subst isUse
      have afterOperand := truthLasts.alignUses (apply_of_constrainUse operandUsed) operandAligned
      exact isExtension.apply_eq afterOperand rfl
  | binary connective left right =>
      simp only [alignUses, bind_eq_ok_iff] at visited
      obtain ⟨atLeft, leftUsed, inLeft, leftAligned, atRight, rightUsed, rightAligned⟩ := visited
      intro isUse
      refine isExtension.apply_eq (truthLasts.alignUses ?_ rightAligned) rfl
      rcases isUse with isLeft | isRight
      · subst isLeft
        have afterLeft := truthLasts.alignUses (apply_of_constrainUse leftUsed) leftAligned
        exact truthLasts.constrainUse afterLeft rightUsed
      · subst isRight
        exact apply_of_constrainUse rightUsed
  | equal left right =>
      simp only [alignUses_equal, bind_eq_ok_iff] at visited
      obtain ⟨atLeft, leftUsed, atRight, rightUsed, inLeft, leftAligned, rightAligned⟩ := visited
      -- Both sides are aligned as uses before either of them is walked.
      have keeps := (extends_of_alignUses rightAligned).trans (extends_of_alignUses leftAligned)
      constructor
      · intro isUse side sideTyped sideConcrete
        subst isUse
        have used := apply_of_constrainSide leftUsed sideTyped sideConcrete
        have atBoth := (outlastsRefinement_apply bound.ty sideConcrete).constrainSide used rightUsed
        exact (isExtension.trans keeps).apply_eq atBoth sideConcrete
      · intro isUse side sideTyped sideConcrete
        subst isUse
        have used := apply_of_constrainSide rightUsed sideTyped sideConcrete
        exact (isExtension.trans keeps).apply_eq used sideConcrete
  | app function argument =>
      simp only [alignUses_app, bind_eq_ok_iff] at visited
      obtain ⟨atArgument, argumentUsed, atFunction, functionUsed, inFunction, functionAligned,
        argumentAligned⟩ := visited
      have keeps := (extends_of_alignUses argumentAligned).trans (extends_of_alignUses functionAligned)
      constructor
      · intro isUse domain range functionTyped domainConcrete
        subst isUse
        have used := apply_of_constrainArgument argumentUsed functionTyped domainConcrete
        have atBoth :=
          (outlastsRefinement_apply bound.ty domainConcrete).constrainFunction used functionUsed
        exact (isExtension.trans keeps).apply_eq atBoth domainConcrete
      · intro isUse argumentTy argumentTyped argumentConcrete
        subst isUse
        -- Here only the domain of the variable's type is aligned, so the range may keep its variables.
        obtain ⟨domain, range, _, functionTyped, -⟩ := typeOf_app_eq_ok_iff.mp typed
        simp only [typeOf, Except.ok.injEq] at functionTyped
        have used :=
          apply_of_constrainFunction functionUsed functionTyped argumentTyped argumentConcrete
        refine ⟨reached.apply range, ?_⟩
        rw [functionTyped, Alignment.apply, (isExtension.trans keeps).apply_eq used argumentConcrete]

/-- The domain of an abstraction is what every exposed use of its variable at a type without variables
asks for. -/
theorem domain_agrees_with_uses {body : Term} {domain range : Ty}
    (typed : (Term.lambda bound body).typeOf = .ok (.fn domain range))
    (exposed : Exposes bound.name body node) : node.UsesAs bound domain := by
  obtain ⟨-, bodyTy, bodyTyped, alignment, uses, same⟩ := typeOf_lambda_eq_ok_iff.mp typed
  obtain ⟨path, found⟩ := exposed.occursIn
  obtain ⟨nodeTy, nodeTyped⟩ := exists_typeOf_of_at? bodyTyped found
  cases same
  rw [usesAlignment] at uses
  split at uses
  · obtain ⟨before, after, visited, isExtension⟩ := exists_visit_of_exposes exposed uses
    exact usesAs_of_visit nodeTyped visited isExtension
  · rename_i concrete
    cases uses
    rw [Alignment.apply_empty]
    exact usesAs_of_concrete nodeTyped (Bool.eq_false_iff.mpr concrete)

/-- In `λf[∀y[R(y) ∨ f(j)]]`, where `f` is of type `<'a,t>`, the use of `f` below the quantifier asks for
a domain that takes an `e`. -/
theorem domain_agrees_with_uses_under_quantifier :
    let f : Ident := ⟨.var, "f", .fn (.var 'a') .truth⟩
    let y : Ident := ⟨.var, "y", .var 'a'⟩
    let r := Term.ident ⟨.const, "R", .predicate⟩
    let j := Term.ident ⟨.const, "j", .entity⟩
    let use := Term.app (.ident f) j
    let body := Term.binder .universal y (.binary .or (.app r (.ident y)) use)
    (Term.lambda f body).typeOf = .ok (.fn .predicate .truth) ∧ Exposes f.name body use ∧
      ∃ range, Ty.predicate = .fn .entity range := by
  intro f y r j use body
  have typed : (Term.lambda f body).typeOf = .ok (.fn .predicate .truth) := rfl
  have exposed : Exposes f.name body use := .binder (by decide) (.binaryRight (.whole use))
  have agrees := domain_agrees_with_uses typed exposed
  exact ⟨typed, exposed, agrees.2 rfl .entity rfl rfl⟩

end Term

end Denotation
