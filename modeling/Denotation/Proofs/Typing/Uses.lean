import Denotation.Proofs.Typing.Alignment
import Denotation.Proofs.Typing.Simple
import Denotation.Term.Path

/-!
# How binders and applications are typed

A term that has a type has only parts that have one.  The type of an abstraction is specialized to what
the body uses the bound variable as, and the type of an application to its argument.

Only uses at types without variables count, so whatever the uses fix of the bound variable's type is fixed
to a type without variables.
-/

namespace Denotation

/-- No type that the alignment gives to a variable has variables. -/
def Alignment.IsConcrete (alignment : Alignment) : Prop :=
  ∀ symbol ty, alignment.get? symbol = some ty → ty.hasVariables = false

namespace Term

/-- What the type variables of a bound variable stand for, judging by its uses in the body. -/
def usesAlignment (bound : Ident) (body : Term) : Except TypeError Alignment :=
  if bound.ty.hasVariables then body.alignUses bound .empty else .ok .empty

theorem typeOf_lambda {bound : Ident} (isVar : bound.isVar = true) (body : Term) :
    (Term.binder .lambda bound body).typeOf = do
      let bodyTy ← body.typeOf
      let alignment ← usesAlignment bound body
      return .fn (alignment.apply bound.ty) (alignment.apply bodyTy) := by
  simp only [typeOf, if_pos isVar, usesAlignment]
  cases body.typeOf with
  | error _ => rfl
  | ok bodyTy => cases bound.ty.hasVariables <;> rfl

theorem typeOf_lambda_eq_ok_iff {bound : Ident} {body : Term} {ty : Ty} :
    (Term.binder .lambda bound body).typeOf = .ok ty ↔
      bound.isVar = true ∧ ∃ bodyTy, body.typeOf = .ok bodyTy ∧
        ∃ alignment, usesAlignment bound body = .ok alignment ∧
          .fn (alignment.apply bound.ty) (alignment.apply bodyTy) = ty := by
  cases isVar : bound.isVar with
  | false => simp [typeOf, isVar]
  | true => simp only [typeOf_lambda isVar, bind_eq_ok_iff, pure_eq_ok_iff, true_and]

theorem typeOf_iota {bound : Ident} (isVar : bound.isVar = true) (body : Term) :
    (Term.binder .iota bound body).typeOf = do
      fit .truth body (← body.typeOf)
      let alignment ← usesAlignment bound body
      return alignment.apply bound.ty := by
  simp only [typeOf, if_pos isVar, usesAlignment]
  cases body.typeOf with
  | error _ => rfl
  | ok bodyTy => cases bound.ty.hasVariables <;> rfl

theorem typeOf_iota_eq_ok_iff {bound : Ident} {body : Term} {ty : Ty} :
    (Term.binder .iota bound body).typeOf = .ok ty ↔
      bound.isVar = true ∧ (∃ found, body.typeOf = .ok found ∧ Ty.truth.compatible found = true) ∧
        ∃ alignment, usesAlignment bound body = .ok alignment ∧ alignment.apply bound.ty = ty := by
  cases isVar : bound.isVar with
  | false => simp [typeOf, isVar]
  | true =>
      simp only [typeOf_iota isVar, bind_eq_ok_iff, fit_eq_ok_iff, pure_eq_ok_iff, true_and]
      constructor
      · rintro ⟨found, bodyTyped, _, fits, specialized⟩
        exact ⟨⟨found, bodyTyped, fits⟩, specialized⟩
      · rintro ⟨⟨found, bodyTyped, fits⟩, specialized⟩
        exact ⟨found, bodyTyped, (), fits, specialized⟩

theorem typeOf_quantifier_eq_ok_iff {kind : BinderKind} {bound : Ident} {body : Term} {ty : Ty}
    (quantifies : kind = .existential ∨ kind = .universal) :
    (Term.binder kind bound body).typeOf = .ok ty ↔
      bound.isVar = true ∧ (∃ found, body.typeOf = .ok found ∧ Ty.truth.compatible found = true) ∧
        .truth = ty := by
  cases isVar : bound.isVar with
  | false => simp [typeOf, isVar]
  | true =>
      rcases quantifies with rfl | rfl <;>
        simp only [typeOf, isVar, if_true, bind_eq_ok_iff, fit_eq_ok_iff, pure_eq_ok_iff,
          exists_and_left, exists_const, ← exists_and_right, true_and, and_assoc]

theorem typeOf_app_eq_ok_iff {function argument : Term} {ty : Ty} :
    (Term.app function argument).typeOf = .ok ty ↔
      ∃ domain range argumentTy, function.typeOf = .ok (.fn domain range) ∧
        argument.typeOf = .ok argumentTy ∧ domain.compatible argumentTy = true ∧
          if (Ty.fn domain range).hasVariables then
            ∃ alignment, domain.align argumentTy = .ok alignment ∧ alignment.apply range = ty
          else range = ty := by
  simp only [typeOf, bind_eq_ok_iff]
  constructor
  · rintro ⟨functionTy, functionTyped, argumentTy, argumentTyped, applied⟩
    cases functionTy with
    | const _ => cases applied
    | var _ => cases applied
    | fn domain range =>
        simp only [applicationType, bind_eq_ok_iff, fit_eq_ok_iff] at applied
        obtain ⟨_, fits, applied⟩ := applied
        refine ⟨domain, range, argumentTy, functionTyped, argumentTyped, fits, ?_⟩
        split at applied
        · rename_i polymorphic
          simpa only [polymorphic, if_true, bind_eq_ok_iff, mapError_eq_ok_iff, pure_eq_ok_iff]
            using applied
        · rename_i concrete
          simpa only [concrete, if_false, pure_eq_ok_iff, Bool.false_eq_true] using applied
  · rintro ⟨domain, range, argumentTy, functionTyped, argumentTyped, fits, applied⟩
    refine ⟨_, functionTyped, _, argumentTyped, ?_⟩
    simp only [applicationType, bind_eq_ok_iff, fit_eq_ok_iff]
    refine ⟨(), fits, ?_⟩
    split at applied
    · rename_i polymorphic
      simpa only [polymorphic, if_true, bind_eq_ok_iff, mapError_eq_ok_iff, pure_eq_ok_iff]
        using applied
    · rename_i concrete
      simpa only [concrete, if_false, pure_eq_ok_iff, Bool.false_eq_true] using applied

theorem typeOf_binary_eq_ok_iff {connective : Connective} {left right : Term} {ty : Ty} :
    (Term.binary connective left right).typeOf = .ok ty ↔
      (∃ found, left.typeOf = .ok found ∧ Ty.truth.compatible found = true) ∧
        (∃ found, right.typeOf = .ok found ∧ Ty.truth.compatible found = true) ∧ .truth = ty := by
  simp only [typeOf, bind_eq_ok_iff, fit_eq_ok_iff, pure_eq_ok_iff]
  constructor
  · rintro ⟨leftTy, leftTyped, _, leftFits, rightTy, rightTyped, _, rightFits, isTruth⟩
    exact ⟨⟨leftTy, leftTyped, leftFits⟩, ⟨rightTy, rightTyped, rightFits⟩, isTruth⟩
  · rintro ⟨⟨leftTy, leftTyped, leftFits⟩, ⟨rightTy, rightTyped, rightFits⟩, isTruth⟩
    exact ⟨leftTy, leftTyped, (), leftFits, rightTy, rightTyped, (), rightFits, isTruth⟩

theorem typeOf_not_eq_ok_iff {operand : Term} {ty : Ty} :
    (Term.not operand).typeOf = .ok ty ↔
      (∃ found, operand.typeOf = .ok found ∧ Ty.truth.compatible found = true) ∧ .truth = ty := by
  simp only [typeOf, bind_eq_ok_iff, fit_eq_ok_iff, pure_eq_ok_iff]
  constructor
  · intro derived
    obtain ⟨found, operandTyped, _, fits, isTruth⟩ := derived
    exact ⟨⟨found, operandTyped, fits⟩, isTruth⟩
  · intro premises
    obtain ⟨⟨found, operandTyped, fits⟩, isTruth⟩ := premises
    exact ⟨found, operandTyped, (), fits, isTruth⟩

theorem typeOf_equal_eq_ok_iff {left right : Term} {ty : Ty} :
    (Term.equal left right).typeOf = .ok ty ↔
      ∃ leftTy rightTy, left.typeOf = .ok leftTy ∧ right.typeOf = .ok rightTy ∧
        leftTy.compatible rightTy = true ∧ .truth = ty := by
  simp only [typeOf, bind_eq_ok_iff, fit_eq_ok_iff, pure_eq_ok_iff]
  constructor
  · intro derived
    obtain ⟨leftTy, leftTyped, rightTy, rightTyped, _, fits, isTruth⟩ := derived
    exact ⟨leftTy, rightTy, leftTyped, rightTyped, fits, isTruth⟩
  · intro premises
    obtain ⟨leftTy, rightTy, leftTyped, rightTyped, fits, isTruth⟩ := premises
    exact ⟨leftTy, leftTyped, rightTy, rightTyped, (), fits, isTruth⟩

/-- Every binder but abstraction is over a body of type `t`. -/
theorem exists_truth_of_typeOf_binder {kind : BinderKind} {bound : Ident} {body : Term} {ty : Ty}
    (notLambda : kind ≠ .lambda) (typed : (Term.binder kind bound body).typeOf = .ok ty) :
    ∃ found, body.typeOf = .ok found ∧ Ty.truth.compatible found = true := by
  cases kind with
  | lambda => exact absurd rfl notLambda
  | existential => exact ((typeOf_quantifier_eq_ok_iff (Or.inl rfl)).mp typed).2.1
  | universal => exact ((typeOf_quantifier_eq_ok_iff (Or.inr rfl)).mp typed).2.1
  | iota => exact (typeOf_iota_eq_ok_iff.mp typed).2.1

theorem exists_typeOf_of_mem_parts {term part : Term} {ty : Ty} (typed : term.typeOf = .ok ty)
    (member : part ∈ term.parts) : ∃ partTy, part.typeOf = .ok partTy := by
  cases term with
  | ident id => simp [parts] at member
  | binder kind bound body =>
      obtain rfl := List.mem_singleton.mp member
      cases isVar : bound.isVar with
      | false => simp [typeOf, isVar] at typed
      | true =>
          cases kind with
          | lambda | existential | universal | iota =>
              rw [typeOf, if_pos isVar] at typed
              obtain ⟨bodyTy, bodyTyped, -⟩ := bind_eq_ok_iff.mp typed
              exact ⟨bodyTy, bodyTyped⟩
  | not operand =>
      obtain rfl := List.mem_singleton.mp member
      obtain ⟨operandTy, operandTyped, -⟩ := bind_eq_ok_iff.mp typed
      exact ⟨operandTy, operandTyped⟩
  | binary connective left right =>
      simp only [typeOf, bind_eq_ok_iff] at typed
      obtain ⟨leftTy, leftTyped, _, -, rightTy, rightTyped, -⟩ := typed
      simp only [parts, List.mem_cons, List.not_mem_nil, or_false] at member
      rcases member with rfl | rfl
      · exact ⟨leftTy, leftTyped⟩
      · exact ⟨rightTy, rightTyped⟩
  | equal left right =>
      simp only [typeOf, bind_eq_ok_iff] at typed
      obtain ⟨leftTy, leftTyped, rightTy, rightTyped, -⟩ := typed
      simp only [parts, List.mem_cons, List.not_mem_nil, or_false] at member
      rcases member with rfl | rfl
      · exact ⟨leftTy, leftTyped⟩
      · exact ⟨rightTy, rightTyped⟩
  | app function argument =>
      simp only [typeOf, bind_eq_ok_iff] at typed
      obtain ⟨functionTy, functionTyped, argumentTy, argumentTyped, -⟩ := typed
      simp only [parts, List.mem_cons, List.not_mem_nil, or_false] at member
      rcases member with rfl | rfl
      · exact ⟨functionTy, functionTyped⟩
      · exact ⟨argumentTy, argumentTyped⟩

theorem exists_typeOf_of_at? {term subterm : Term} {ty : Ty} {path : Path}
    (typed : term.typeOf = .ok ty) (found : term.at? path = some subterm) :
    ∃ subtermTy, subterm.typeOf = .ok subtermTy := by
  induction path generalizing term ty with
  | nil =>
      cases found
      exact ⟨ty, typed⟩
  | cons number rest induction =>
      rw [at?_cons] at found
      obtain ⟨part, isPart, below⟩ := Option.bind_eq_some_iff.mp found
      obtain ⟨partTy, partTyped⟩ := exists_typeOf_of_mem_parts typed (List.mem_of_getElem? isPart)
      exact induction partTyped below

section Uses

/-- The uses of a bound variable at an equality, the one side being used at the type of the other. -/
def constrainSide (alignment : Alignment) (bound : Ident) (side other : Term) :
    Except TypeError Alignment :=
  if side = .ident bound then do constrain alignment bound.ty (← other.typeOf) else .ok alignment

def constrainArgument (alignment : Alignment) (bound : Ident) (function argument : Term) :
    Except TypeError Alignment :=
  if argument = .ident bound then do
    match ← function.typeOf with
    | .fn domain _ => constrain alignment bound.ty domain
    | _ => .ok alignment
  else .ok alignment

def constrainFunction (alignment : Alignment) (bound : Ident) (function argument : Term) :
    Except TypeError Alignment :=
  if function = .ident bound then
    match bound.ty with
    | .fn domain _ => do constrain alignment domain (← argument.typeOf)
    | _ => .ok alignment
  else .ok alignment

theorem alignUses_binder (kind : BinderKind) (inner bound : Ident) (body : Term)
    (alignment : Alignment) :
    (Term.binder kind inner body).alignUses bound alignment =
      if inner.name = bound.name then .ok alignment
      else (if kind = .lambda then .ok alignment else constrainUse alignment bound body .truth) >>=
        body.alignUses bound := by
  rw [alignUses.eq_def]
  simp only
  split
  · rfl
  · split <;> rfl

theorem alignUses_equal (left right : Term) (bound : Ident) (alignment : Alignment) :
    (Term.equal left right).alignUses bound alignment =
      constrainSide alignment bound left right >>= fun alignment =>
        constrainSide alignment bound right left >>= fun alignment =>
          left.alignUses bound alignment >>= right.alignUses bound := by
  simp only [alignUses, constrainSide]
  by_cases atLeft : left = .ident bound <;> by_cases atRight : right = .ident bound <;>
    simp only [atLeft, atRight, if_true, if_false, bind_assoc]

theorem constrainArgument_bind {alignment : Alignment} {bound : Ident} {function argument : Term}
    (next : Alignment → Except TypeError Alignment) :
    constrainArgument alignment bound function argument >>= next =
      if argument = .ident bound then do
        match ← function.typeOf with
        | .fn domain _ => constrain alignment bound.ty domain >>= next
        | _ => next alignment
      else next alignment := by
  unfold constrainArgument
  split
  · cases function.typeOf with
    | error _ => rfl
    | ok functionTy => cases functionTy <;> rfl
  · rfl

theorem constrainFunction_bind {alignment : Alignment} {bound : Ident} {function argument : Term}
    (next : Alignment → Except TypeError Alignment) :
    constrainFunction alignment bound function argument >>= next =
      if function = .ident bound then
        match bound.ty with
        | .fn domain _ => do constrain alignment domain (← argument.typeOf) >>= next
        | _ => next alignment
      else next alignment := by
  unfold constrainFunction
  split
  · cases bound.ty with
    | const _ => rfl
    | var _ => rfl
    | fn domain range => exact bind_assoc _ _ _
  · rfl

theorem alignUses_app (function argument : Term) (bound : Ident) (alignment : Alignment) :
    (Term.app function argument).alignUses bound alignment =
      constrainArgument alignment bound function argument >>= fun alignment =>
        constrainFunction alignment bound function argument >>= fun alignment =>
          function.alignUses bound alignment >>= argument.alignUses bound := by
  simp only [alignUses, constrainArgument_bind, constrainFunction_bind]
  rfl

variable {Holds : Alignment → Prop} {bound : Ident} {alignment next : Alignment}

/-- The property outlasts an alignment with any type that has no variables. -/
def OutlastsRefinement (Holds : Alignment → Prop) : Prop :=
  ∀ alignment next variableSided concrete, concrete.hasVariables = false → Holds alignment →
    (alignment.refine variableSided concrete).result = .ok next → Holds next

namespace OutlastsRefinement

theorem constrain (outlasts : OutlastsRefinement Holds) {variableSided expected : Ty}
    (holds : Holds alignment)
    (constrained : Term.constrain alignment variableSided expected = .ok next) : Holds next := by
  unfold Term.constrain at constrained
  split at constrained
  · cases constrained
    exact holds
  · rename_i concrete
    rw [mapError_eq_ok_iff] at constrained
    exact outlasts _ _ _ _ (Bool.eq_false_iff.mpr concrete) holds constrained

theorem atUse {isUse : Prop} [Decidable isUse] {used : Except TypeError Alignment}
    (holds : Holds alignment) (afterUse : used = .ok next → Holds next)
    (constrained : (if isUse then used else .ok alignment) = .ok next) : Holds next := by
  split at constrained
  · exact afterUse constrained
  · cases constrained
    exact holds

theorem constrainUse (outlasts : OutlastsRefinement Holds) {subterm : Term} {expected : Ty}
    (holds : Holds alignment)
    (constrained : Term.constrainUse alignment bound subterm expected = .ok next) : Holds next :=
  atUse holds (outlasts.constrain holds) constrained

theorem constrainSide (outlasts : OutlastsRefinement Holds) {side other : Term}
    (holds : Holds alignment)
    (constrained : Term.constrainSide alignment bound side other = .ok next) : Holds next := by
  refine atUse holds (fun used => ?_) constrained
  obtain ⟨expected, -, used⟩ := bind_eq_ok_iff.mp used
  exact outlasts.constrain holds used

theorem constrainArgument (outlasts : OutlastsRefinement Holds) {function argument : Term}
    (holds : Holds alignment)
    (constrained : Term.constrainArgument alignment bound function argument = .ok next) :
    Holds next := by
  refine atUse holds (fun used => ?_) constrained
  obtain ⟨functionTy, -, used⟩ := bind_eq_ok_iff.mp used
  split at used
  · exact outlasts.constrain holds used
  · cases used
    exact holds

theorem constrainFunction (outlasts : OutlastsRefinement Holds) {function argument : Term}
    (holds : Holds alignment)
    (constrained : Term.constrainFunction alignment bound function argument = .ok next) :
    Holds next := by
  refine atUse holds (fun used => ?_) constrained
  split at used
  · obtain ⟨argumentTy, -, used⟩ := bind_eq_ok_iff.mp used
    exact outlasts.constrain holds used
  · cases used
    exact holds

/-- A property that an alignment with one type without variables keeps is kept by all uses of a bound
variable together. -/
theorem alignUses (outlasts : OutlastsRefinement Holds) {term : Term} (holds : Holds alignment)
    (aligned : term.alignUses bound alignment = .ok next) : Holds next := by
  induction term generalizing alignment next with
  | ident id =>
      cases aligned
      exact holds
  | binder kind inner body bodyIH =>
      rw [alignUses_binder] at aligned
      split at aligned
      · cases aligned
        exact holds
      · obtain ⟨atBody, bodyUsed, bodyAligned⟩ := bind_eq_ok_iff.mp aligned
        refine bodyIH ?_ bodyAligned
        split at bodyUsed
        · cases bodyUsed
          exact holds
        · exact outlasts.constrainUse holds bodyUsed
  | not operand operandIH =>
      obtain ⟨atOperand, operandUsed, operandAligned⟩ := bind_eq_ok_iff.mp aligned
      exact operandIH (outlasts.constrainUse holds operandUsed) operandAligned
  | binary connective left right leftIH rightIH =>
      simp only [Term.alignUses, bind_eq_ok_iff] at aligned
      obtain ⟨atLeft, leftUsed, inLeft, leftAligned, atRight, rightUsed, rightAligned⟩ := aligned
      have afterLeft := leftIH (outlasts.constrainUse holds leftUsed) leftAligned
      exact rightIH (outlasts.constrainUse afterLeft rightUsed) rightAligned
  | equal left right leftIH rightIH =>
      simp only [alignUses_equal, bind_eq_ok_iff] at aligned
      obtain ⟨atLeft, leftUsed, atRight, rightUsed, inLeft, leftAligned, rightAligned⟩ := aligned
      have atBoth := outlasts.constrainSide (outlasts.constrainSide holds leftUsed) rightUsed
      exact rightIH (leftIH atBoth leftAligned) rightAligned
  | app function argument functionIH argumentIH =>
      simp only [alignUses_app, bind_eq_ok_iff] at aligned
      obtain ⟨atArgument, argumentUsed, atFunction, functionUsed, inFunction, functionAligned,
        argumentAligned⟩ := aligned
      have atBoth :=
        outlasts.constrainFunction (outlasts.constrainArgument holds argumentUsed) functionUsed
      exact argumentIH (functionIH atBoth functionAligned) argumentAligned

end OutlastsRefinement

end Uses

theorem outlastsRefinement_isConcrete : OutlastsRefinement Alignment.IsConcrete := by
  intro alignment next variableSided concrete isConcrete holds refined symbol ty found
  obtain ⟨-, rfl⟩ := Refinement.result_eq_ok_iff.mp refined
  rcases Alignment.get?_meetAll found with before | demanded
  · exact holds symbol ty before
  · exact (Ty.faces_iff_mem_demands.mpr demanded).faced_concrete isConcrete

theorem isConcrete_of_usesAlignment {bound : Ident} {body : Term} {alignment : Alignment}
    (aligned : usesAlignment bound body = .ok alignment) : alignment.IsConcrete := by
  have empty : Alignment.empty.IsConcrete := by
    intro symbol ty found
    cases found
  unfold usesAlignment at aligned
  split at aligned
  · exact outlastsRefinement_isConcrete.alignUses empty aligned
  · cases aligned
    exact empty

end Term

end Denotation
