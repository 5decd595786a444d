import Mathlib.Logic.Relation
import Denotation.Proofs.Nameless.Instantiation

/-!
# Parallel reduction of nameless forms

A parallel step contracts any number of the redexes that a term has, none of them twice and none
that only comes up on the way.  Contracting all of them is the complete development, and every
other parallel step can be completed to it.  So two terms reached from the same one by parallel
steps can always be brought together again, and a term without redexes is reached from any given
term at most once.

Types play no part in this.
-/

namespace Denotation.Nameless

/-- The second term comes from the first one by contracting some of its redexes at once. -/
inductive ParallelStep : Nameless → Nameless → Prop where
  | bound (distance : Nat) : ParallelStep (.bound distance) (.bound distance)
  | free (id : Ident) : ParallelStep (.free id) (.free id)
  | binder (kind : BinderKind) (ty : Ty) {body body' : Nameless} :
      ParallelStep body body' → ParallelStep (.binder kind ty body) (.binder kind ty body')
  | not {operand operand' : Nameless} :
      ParallelStep operand operand' → ParallelStep (.not operand) (.not operand')
  | binary (connective : Connective) {left left' right right' : Nameless} :
      ParallelStep left left' → ParallelStep right right' →
        ParallelStep (.binary connective left right) (.binary connective left' right')
  | equal {left left' right right' : Nameless} :
      ParallelStep left left' → ParallelStep right right' →
        ParallelStep (.equal left right) (.equal left' right')
  | app {function function' argument argument' : Nameless} :
      ParallelStep function function' → ParallelStep argument argument' →
        ParallelStep (.app function argument) (.app function' argument')
  | contract (ty : Ty) {body body' argument argument' : Nameless} :
      ParallelStep body body' → ParallelStep argument argument' →
        ParallelStep (.app (.binder .lambda ty body) argument) (body'.instantiate 0 argument')

namespace ParallelStep

theorem refl (term : Nameless) : ParallelStep term term := by
  induction term with
  | bound distance => exact .bound distance
  | free id => exact .free id
  | binder kind ty _ bodyIH => exact .binder kind ty bodyIH
  | not _ operandIH => exact .not operandIH
  | binary connective _ _ leftIH rightIH => exact .binary connective leftIH rightIH
  | equal _ _ leftIH rightIH => exact .equal leftIH rightIH
  | app _ _ functionIH argumentIH => exact .app functionIH argumentIH

theorem lift {term result : Nameless} (step : ParallelStep term result) (amount inner : Nat) :
    ParallelStep (term.lift amount inner) (result.lift amount inner) := by
  induction step generalizing inner with
  | bound distance => exact refl _
  | free id => exact refl _
  | binder kind ty _ bodyIH => exact .binder kind ty (bodyIH (inner + 1))
  | not _ operandIH => exact .not (operandIH inner)
  | binary connective _ _ leftIH rightIH => exact .binary connective (leftIH inner) (rightIH inner)
  | equal _ _ leftIH rightIH => exact .equal (leftIH inner) (rightIH inner)
  | app _ _ functionIH argumentIH => exact .app (functionIH inner) (argumentIH inner)
  | @contract ty body body' argument argument' _ _ bodyIH argumentIH =>
      have lifted := ParallelStep.contract ty (bodyIH (inner + 1)) (argumentIH inner)
      have passed := lift_instantiate body' argument' amount inner 0
      rw [Nat.add_zero] at passed
      rw [passed]
      exact lifted

theorem instantiate {term result : Nameless} (step : ParallelStep term result)
    {replacement replacement' : Nameless} (replaced : ParallelStep replacement replacement')
    (depth : Nat) :
    ParallelStep (term.instantiate depth replacement) (result.instantiate depth replacement') := by
  induction step generalizing depth with
  | bound distance =>
      simp only [Nameless.instantiate]
      split
      · exact refl _
      · split
        · exact replaced.lift depth 0
        · exact refl _
  | free id => exact refl _
  | binder kind ty _ bodyIH => exact .binder kind ty (bodyIH (depth + 1))
  | not _ operandIH => exact .not (operandIH depth)
  | binary connective _ _ leftIH rightIH => exact .binary connective (leftIH depth) (rightIH depth)
  | equal _ _ leftIH rightIH => exact .equal (leftIH depth) (rightIH depth)
  | app _ _ functionIH argumentIH => exact .app (functionIH depth) (argumentIH depth)
  | @contract ty body body' argument argument' _ _ bodyIH argumentIH =>
      have instantiated := ParallelStep.contract ty (bodyIH (depth + 1)) (argumentIH depth)
      have passed := instantiate_instantiate body' argument' replacement' depth 0
      rw [Nat.add_zero] at passed
      rw [passed]
      exact instantiated

/-- A step of an application is made in its parts, unless it is a redex. -/
theorem app_cases {function argument result : Nameless}
    (step : ParallelStep (.app function argument) result) :
    (∃ function' argument', ParallelStep function function' ∧ ParallelStep argument argument' ∧
      result = .app function' argument') ∨
    ∃ ty body, function = .binder .lambda ty body := by
  cases step with
  | app functionStep argumentStep => exact Or.inl ⟨_, _, functionStep, argumentStep, rfl⟩
  | contract ty _ _ => exact Or.inr ⟨ty, _, rfl⟩

end ParallelStep

/-- The complete development: the term with all of its redexes contracted at once. -/
def develop : Nameless → Nameless
  | .bound distance => .bound distance
  | .free id => .free id
  | .binder kind ty body => .binder kind ty body.develop
  | .not operand => .not operand.develop
  | .binary connective left right => .binary connective left.develop right.develop
  | .equal left right => .equal left.develop right.develop
  | .app (.binder .lambda _ body) argument => body.develop.instantiate 0 argument.develop
  | .app function argument => .app function.develop argument.develop

/-- Whatever a parallel step left out can be made up for by another one. -/
theorem ParallelStep.to_develop {term result : Nameless} (step : ParallelStep term result) :
    ParallelStep result term.develop := by
  induction step with
  | bound distance => exact .bound distance
  | free id => exact .free id
  | binder kind ty _ bodyIH => exact .binder kind ty bodyIH
  | not _ operandIH => exact .not operandIH
  | binary connective _ _ leftIH rightIH => exact .binary connective leftIH rightIH
  | equal _ _ leftIH rightIH => exact .equal leftIH rightIH
  | @app function function' argument argument' functionStep _ functionIH argumentIH =>
      -- The development contracts the application only if its function is an abstraction.
      by_cases abstraction : ∃ ty body, function = .binder .lambda ty body
      · obtain ⟨ty, body, rfl⟩ := abstraction
        cases functionStep with
        | @binder _ _ _ body' bodyStep =>
            cases functionIH with
            | binder _ _ developed => exact .contract ty developed argumentIH
      · have developed : (Nameless.app function argument).develop =
            .app function.develop argument.develop := by
          rw [develop]
          exact fun ty body same => abstraction ⟨ty, body, same⟩
        rw [developed]
        exact .app functionIH argumentIH
  | contract ty _ _ bodyIH argumentIH => exact bodyIH.instantiate argumentIH 0

/-- What is reached from one term by parallel steps in two ways can be brought together again. -/
theorem parallelStep_confluent {term left right : Nameless}
    (toLeft : Relation.ReflTransGen ParallelStep term left)
    (toRight : Relation.ReflTransGen ParallelStep term right) :
    Relation.Join (Relation.ReflTransGen ParallelStep) left right := by
  refine Relation.church_rosser ?_ toLeft toRight
  intro start first second toFirst toSecond
  exact ⟨start.develop, .single toFirst.to_develop, .single toSecond.to_develop⟩

/-- No parallel step leads to another term. -/
def IsStuck (term : Nameless) : Prop := ∀ result, ParallelStep term result → result = term

theorem IsStuck.eq_of_reachable {term result : Nameless} (stuck : term.IsStuck)
    (reachable : Relation.ReflTransGen ParallelStep term result) : result = term := by
  induction reachable with
  | refl => rfl
  | tail _ step reached =>
      subst reached
      exact stuck _ step

theorem eq_of_reachable_of_isStuck {term left right : Nameless}
    (toLeft : Relation.ReflTransGen ParallelStep term left)
    (toRight : Relation.ReflTransGen ParallelStep term right)
    (leftStuck : left.IsStuck) (rightStuck : right.IsStuck) : left = right := by
  obtain ⟨common, fromLeft, fromRight⟩ := parallelStep_confluent toLeft toRight
  exact (leftStuck.eq_of_reachable fromLeft).symm.trans (rightStuck.eq_of_reachable fromRight)

end Denotation.Nameless
