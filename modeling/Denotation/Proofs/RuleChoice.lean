import Mathlib.Data.List.Basic
import Denotation.Proofs.Composition

/-!
# Which rule combines two sisters

The test whether a function accepts its argument comes before the application is typed, and rejects nothing
that has a type.  So the choice of a rule can be told from the sisters alone: an application that has a type
comes first, the left sister being tried as the function before the right one, then predicate modification.

Exchanging the sisters exchanges the two applications and leaves the other conditions as they are, so the
rule stays the same.  If the types have no variables, an argument is of exactly the type of the domain.
Two sisters cannot then be applied to each other in both ways, because each type would be a part of the
other, and no predicate of entities applies to another one.
-/

namespace Denotation

theorem Term.isWellTyped_eq_true_iff {term : Term} :
    term.isWellTyped = true ↔ ∃ ty, term.typeOf = .ok ty := by
  unfold isWellTyped
  cases term.typeOf <;> simp

namespace CompositionConfig

variable {config : CompositionConfig} {left right : Term} {leftTy rightTy : Ty}

/-- Predicate modification is available and both sisters are compatible with `<e,t>`. -/
def Modifies (config : CompositionConfig) (leftTy rightTy : Ty) : Prop :=
  config.predicateModification = true ∧ Ty.predicate.compatible leftTy = true ∧
    Ty.predicate.compatible rightTy = true

instance (config : CompositionConfig) (leftTy rightTy : Ty) : Decidable (config.Modifies leftTy rightTy) :=
  inferInstanceAs (Decidable (_ ∧ _ ∧ _))

/-- The composition is by the first rule whose condition the sisters meet. -/
structure Chooses (config : CompositionConfig) (left right : Term) (leftTy rightTy : Ty)
    (composition : Composition) : Prop where
  leftFunction : ∀ meaning ty, composition = .functionApplication .left meaning ty ↔
    meaning = .app left right ∧ meaning.typeOf = .ok ty
  rightFunction : ∀ meaning ty, composition = .functionApplication .right meaning ty ↔
    (Term.app left right).isWellTyped = false ∧ meaning = .app right left ∧ meaning.typeOf = .ok ty
  modification : ∀ meaning ty, composition = .predicateModification meaning ty ↔
    (Term.app left right).isWellTyped = false ∧ (Term.app right left).isWellTyped = false ∧
      config.Modifies leftTy rightTy ∧ meaning = left.modification right ∧ ty = .predicate
  undetermined : ∀ first second, composition = .undetermined first second ↔
    (Term.app left right).isWellTyped = false ∧ (Term.app right left).isWellTyped = false ∧
      ¬ config.Modifies leftTy rightTy ∧ first = leftTy ∧ second = rightTy

/-- Asking first whether the function accepts the argument changes nothing. -/
theorem functionApplication?_eq (side : Side) {function argument : Term} {functionTy argumentTy : Ty}
    (functionTyped : function.typeOf = .ok functionTy)
    (argumentTyped : argument.typeOf = .ok argumentTy) :
    functionApplication? side function argument functionTy argumentTy =
      (Term.app function argument).typeOf.toOption.map
        (.functionApplication side (.app function argument)) := by
  cases applied : (Term.app function argument).typeOf with
  | error error =>
      refine Option.eq_none_iff_forall_ne_some.mpr fun composition chosen => ?_
      obtain ⟨-, ty, typed, -⟩ := functionApplication?_eq_some_iff.mp chosen
      cases applied.symm.trans typed
  | ok ty =>
      refine functionApplication?_eq_some_iff.mpr ⟨?_, ty, applied, rfl⟩
      obtain ⟨domain, range, _, functionTyped', argumentTyped', fits, -⟩ :=
        Term.typeOf_app_eq_ok_iff.mp applied
      cases functionTyped.symm.trans functionTyped'
      cases argumentTyped.symm.trans argumentTyped'
      exact fits

theorem combine_eq (leftTyped : left.typeOf = .ok leftTy) (rightTyped : right.typeOf = .ok rightTy) :
    config.combine left right leftTy rightTy =
      match (Term.app left right).typeOf, (Term.app right left).typeOf with
      | .ok ty, _ => .functionApplication .left (.app left right) ty
      | .error _, .ok ty => .functionApplication .right (.app right left) ty
      | .error _, .error _ =>
          if config.Modifies leftTy rightTy then
            .predicateModification (left.modification right) .predicate
          else .undetermined leftTy rightTy := by
  rw [combine, functionApplication?_eq .left leftTyped rightTyped,
    functionApplication?_eq .right rightTyped leftTyped]
  cases (Term.app left right).typeOf with
  | ok ty => rfl
  | error _ =>
      cases (Term.app right left).typeOf with
      | ok ty => rfl
      | error _ =>
          refine if_congr ?_ rfl rfl
          rw [Bool.and_eq_true, Bool.and_eq_true, and_assoc, Modifies]

section Application

variable {side : Side} {application meaning : Term} {found ty : Ty}

theorem eq_functionApplication_iff (typed : application.typeOf = .ok found) :
    Composition.functionApplication side application found = .functionApplication side meaning ty ↔
      meaning = application ∧ meaning.typeOf = .ok ty := by
  constructor
  · intro same
    cases same
    exact ⟨rfl, typed⟩
  · intro same
    obtain ⟨rfl, typed'⟩ := same
    cases typed.symm.trans typed'
    rfl

theorem not_eq_and_typeOf {error : TypeError} (untyped : application.typeOf = .error error) :
    ¬ (meaning = application ∧ meaning.typeOf = .ok ty) := by
  intro same
  obtain ⟨rfl, typed⟩ := same
  cases untyped.symm.trans typed

end Application

theorem chooses_combine (config : CompositionConfig) (leftTyped : left.typeOf = .ok leftTy)
    (rightTyped : right.typeOf = .ok rightTy) :
    config.Chooses left right leftTy rightTy (config.combine left right leftTy rightTy) := by
  rw [combine_eq leftTyped rightTyped]
  -- In each case one rule is chosen, and the conditions of the three others contradict the case.
  cases leftApplied : (Term.app left right).typeOf with
  | ok ty =>
      have applies : (Term.app left right).isWellTyped = true :=
        Term.isWellTyped_eq_true_iff.mpr ⟨ty, leftApplied⟩
      exact {
        leftFunction := fun _ _ => eq_functionApplication_iff leftApplied
        rightFunction := by simp [applies]
        modification := by simp [applies]
        undetermined := by simp [applies] }
  | error leftError =>
      have leftFails : (Term.app left right).isWellTyped = false := by
        simp [Term.isWellTyped, leftApplied]
      cases rightApplied : (Term.app right left).typeOf with
      | ok ty =>
          have applies : (Term.app right left).isWellTyped = true :=
            Term.isWellTyped_eq_true_iff.mpr ⟨ty, rightApplied⟩
          exact {
            leftFunction := fun _ _ => iff_of_false nofun (not_eq_and_typeOf leftApplied)
            rightFunction := fun _ _ =>
              (eq_functionApplication_iff rightApplied).trans (and_iff_right leftFails).symm
            modification := by simp [applies]
            undetermined := by simp [applies] }
      | error rightError =>
          have rightFails : (Term.app right left).isWellTyped = false := by
            simp [Term.isWellTyped, rightApplied]
          by_cases modifies : config.Modifies leftTy rightTy
          · rw [if_pos modifies]
            exact {
              leftFunction := fun _ _ => iff_of_false nofun (not_eq_and_typeOf leftApplied)
              rightFunction := fun _ _ =>
                iff_of_false nofun fun applied => not_eq_and_typeOf rightApplied applied.2
              modification := by simp [leftFails, rightFails, modifies, eq_comm]
              undetermined := by simp [modifies] }
          · rw [if_neg modifies]
            exact {
              leftFunction := fun _ _ => iff_of_false nofun (not_eq_and_typeOf leftApplied)
              rightFunction := fun _ _ =>
                iff_of_false nofun fun applied => not_eq_and_typeOf rightApplied applied.2
              modification := by simp [modifies]
              undetermined := by simp [leftFails, rightFails, modifies, eq_comm] }

theorem rule_combine (leftTyped : left.typeOf = .ok leftTy) (rightTyped : right.typeOf = .ok rightTy) :
    (config.combine left right leftTy rightTy).rule =
      if (Term.app left right).isWellTyped = true ∨ (Term.app right left).isWellTyped = true then
        .functionApplication
      else if config.Modifies leftTy rightTy then .predicateModification
      else .undetermined := by
  rw [combine_eq leftTyped rightTyped]
  unfold Term.isWellTyped
  cases (Term.app left right).typeOf with
  | ok _ => rfl
  | error _ =>
      cases (Term.app right left).typeOf with
      | ok _ => rfl
      | error _ =>
          by_cases modifies : config.Modifies leftTy rightTy
          · simp [modifies, Composition.rule]
          · simp [modifies, Composition.rule]

/-- The conditions of a rule do not tell the sisters apart. -/
theorem rule_combine_comm (leftTyped : left.typeOf = .ok leftTy)
    (rightTyped : right.typeOf = .ok rightTy) :
    (config.combine right left rightTy leftTy).rule = (config.combine left right leftTy rightTy).rule := by
  have modifies : config.Modifies rightTy leftTy ↔ config.Modifies leftTy rightTy := by
    rw [Modifies, Modifies, and_comm (a := Ty.predicate.compatible rightTy = true)]
  rw [rule_combine rightTyped leftTyped, rule_combine leftTyped rightTyped]
  simp only [or_comm, modifies]

section Concrete

variable (leftTyped : left.typeOf = .ok leftTy) (rightTyped : right.typeOf = .ok rightTy)
  (leftConcrete : leftTy.hasVariables = false) (rightConcrete : rightTy.hasVariables = false)

include leftTyped rightTyped leftConcrete rightConcrete

/-- Without type variables, the domain of a function is the type of its argument. -/
theorem exists_range_of_isWellTyped (wellTyped : (Term.app left right).isWellTyped = true) :
    ∃ range, leftTy = .fn rightTy range := by
  obtain ⟨ty, applied⟩ := Term.isWellTyped_eq_true_iff.mp wellTyped
  obtain ⟨domain, range, _, leftTyped', rightTyped', fits, -⟩ := Term.typeOf_app_eq_ok_iff.mp applied
  cases leftTyped.symm.trans leftTyped'
  cases rightTyped.symm.trans rightTyped'
  simp only [Ty.hasVariables, Bool.or_eq_false_iff] at leftConcrete
  obtain rfl := Ty.eq_of_compatible leftConcrete.1 rightConcrete fits
  exact ⟨range, rfl⟩

/-- Each of the two types would be the domain of the other. -/
theorem not_both_isWellTyped :
    ¬ ((Term.app left right).isWellTyped = true ∧ (Term.app right left).isWellTyped = true) := by
  intro both
  obtain ⟨range, leftIsFunction⟩ :=
    exists_range_of_isWellTyped leftTyped rightTyped leftConcrete rightConcrete both.1
  obtain ⟨range', rightIsFunction⟩ :=
    exists_range_of_isWellTyped rightTyped leftTyped rightConcrete leftConcrete both.2
  rw [rightIsFunction] at leftIsFunction
  cases leftIsFunction

theorem not_isWellTyped_of_predicates (leftFits : Ty.predicate.compatible leftTy = true)
    (rightFits : Ty.predicate.compatible rightTy = true) :
    ¬ (Term.app left right).isWellTyped = true := by
  intro wellTyped
  obtain ⟨range, leftIsFunction⟩ :=
    exists_range_of_isWellTyped leftTyped rightTyped leftConcrete rightConcrete wellTyped
  obtain rfl := Ty.eq_of_compatible rfl leftConcrete leftFits
  obtain rfl := Ty.eq_of_compatible rfl rightConcrete rightFits
  cases leftIsFunction

/-- One order of the sisters applies the one to the other exactly as the other order does. -/
theorem exists_combine_exchanged {side : Side} {meaning : Term} {ty : Ty}
    (applied : config.combine left right leftTy rightTy = .functionApplication side meaning ty) :
    ∃ side', config.combine right left rightTy leftTy = .functionApplication side' meaning ty := by
  have choice := chooses_combine config leftTyped rightTyped
  have exchanged := chooses_combine config rightTyped leftTyped
  cases side with
  | left =>
      obtain ⟨rfl, typed⟩ := (choice.leftFunction meaning ty).mp applied
      have rightFails : (Term.app right left).isWellTyped = false := by
        refine Bool.eq_false_iff.mpr fun rightApplies => ?_
        exact not_both_isWellTyped leftTyped rightTyped leftConcrete rightConcrete
          ⟨Term.isWellTyped_eq_true_iff.mpr ⟨ty, typed⟩, rightApplies⟩
      exact ⟨.right, (exchanged.rightFunction _ ty).mpr ⟨rightFails, rfl, typed⟩⟩
  | right =>
      obtain ⟨-, rfl, typed⟩ := (choice.rightFunction meaning ty).mp applied
      exact ⟨.left, (exchanged.leftFunction _ ty).mpr ⟨rfl, typed⟩⟩

end Concrete

theorem resolve_eq_ok (leftTyped : left.typeOf = .ok leftTy) (rightTyped : right.typeOf = .ok rightTy) :
    config.resolve left right = .ok (config.combine left right leftTy rightTy) := by
  rw [resolve, leftTyped, rightTyped]
  rfl

theorem resolve_eq_error_iff {error : TypeError} :
    config.resolve left right = .error error ↔
      left.typeOf = .error error ∨ left.isWellTyped = true ∧ right.typeOf = .error error := by
  unfold resolve Term.isWellTyped
  cases left.typeOf with
  | error _ => simp [bind, Except.bind]
  | ok leftTy => cases right.typeOf <;> simp [bind, Except.bind, pure, Except.pure]

/-- Composition fails exactly if a sister has no type, with the error of the left one first.  Otherwise the
first rule is chosen whose condition the sisters meet, and exchanging them does not change the rule.  If
their types have no variables, they can be applied to each other in one way at most, and not at all if both
are predicates of entities, so the order of the sisters does not change the meaning of an application. -/
theorem resolve_chooses_rule (config : CompositionConfig) (left right : Term) :
    (∀ error, config.resolve left right = .error error ↔
      left.typeOf = .error error ∨ left.isWellTyped = true ∧ right.typeOf = .error error) ∧
    ∀ leftTy rightTy, left.typeOf = .ok leftTy → right.typeOf = .ok rightTy →
      ∃ composition exchanged, config.resolve left right = .ok composition ∧
        config.resolve right left = .ok exchanged ∧
        config.Chooses left right leftTy rightTy composition ∧ exchanged.rule = composition.rule ∧
        (leftTy.hasVariables = false → rightTy.hasVariables = false →
          ¬ ((Term.app left right).isWellTyped = true ∧ (Term.app right left).isWellTyped = true) ∧
          ¬ (((Term.app left right).isWellTyped = true ∨ (Term.app right left).isWellTyped = true) ∧
            Ty.predicate.compatible leftTy = true ∧ Ty.predicate.compatible rightTy = true) ∧
          ∀ side meaning ty, composition = .functionApplication side meaning ty →
            ∃ side', exchanged = .functionApplication side' meaning ty) := by
  refine ⟨fun _ => resolve_eq_error_iff, fun leftTy rightTy leftTyped rightTyped => ?_⟩
  refine ⟨config.combine left right leftTy rightTy, config.combine right left rightTy leftTy,
    resolve_eq_ok leftTyped rightTyped, resolve_eq_ok rightTyped leftTyped,
    chooses_combine config leftTyped rightTyped, rule_combine_comm leftTyped rightTyped, ?_⟩
  intro leftConcrete rightConcrete
  refine ⟨not_both_isWellTyped leftTyped rightTyped leftConcrete rightConcrete, ?_, ?_⟩
  · intro admissible
    obtain ⟨applies | applies, leftFits, rightFits⟩ := admissible
    · exact not_isWellTyped_of_predicates leftTyped rightTyped leftConcrete rightConcrete
        leftFits rightFits applies
    · exact not_isWellTyped_of_predicates rightTyped leftTyped rightConcrete leftConcrete
        rightFits leftFits applies
  · exact fun _ _ _ => exists_combine_exchanged leftTyped rightTyped leftConcrete rightConcrete

/-- An argument on the left of its function is composed as it is on the right. -/
theorem resolve_chooses_rule_argument_first :
    let john : Term := .ident ⟨.const, "j", .entity⟩
    let happy : Term := .ident ⟨.const, "Happy", .predicate⟩
    resolve {} john happy = .ok (.functionApplication .right (.app happy john) .truth) ∧
      ∃ side, resolve {} happy john = .ok (.functionApplication side (.app happy john) .truth) := by
  intro john happy
  have applied :
      resolve {} john happy = .ok (.functionApplication .right (.app happy john) .truth) := rfl
  obtain ⟨composition, exchanged, chosen, chosen', -, -, concrete⟩ :=
    (resolve_chooses_rule {} john happy).2 .entity .predicate rfl rfl
  cases chosen.symm.trans applied
  obtain ⟨-, -, sameMeaning⟩ := concrete rfl rfl
  obtain ⟨side, rfl⟩ := sameMeaning .right (.app happy john) .truth rfl
  exact ⟨applied, side, chosen'⟩

end CompositionConfig

end Denotation
