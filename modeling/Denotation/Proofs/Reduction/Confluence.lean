import Denotation.Proofs.Nameless.ParallelReduction
import Denotation.Proofs.Nameless.Substitution
import Denotation.Proofs.Reduction.Normalization

/-!
# Choice of the redex

Every contraction in a simply typed term is a parallel step of its nameless form, wherever the redex
stands and whatever variants the substitution makes.  Parallel steps are confluent, so the end of the
reduction depends on nothing but the nameless form that it starts from, and contracting any redex
first changes the result in the names of bound variables only.
-/

namespace Denotation.Term

open Relation

theorem SimplyTyped.parallelStep_betaReduce {redex : Term} {ty : Ty} {contracted : Substituted}
    (typed : SimplyTyped redex ty) (isRedex : redex.isRedex = true)
    (succeeds : redex.betaReduce = .ok contracted) (scope : List Ident) :
    Nameless.ParallelStep (redex.namelessIn scope) (contracted.term.namelessIn scope) := by
  obtain ⟨bound, body, argument, rfl⟩ := isRedex_eq_true_iff.mp isRedex
  cases succeeds.symm.trans typed.betaReduce_eq.1
  cases typed with
  | app functionTyped _ =>
      obtain ⟨bodyTy, bodyTyped, -⟩ := functionTyped.under_binder
      have substituted := namelessIn_substitute body argument [] [] scope functionTyped.isVar_bound
        bodyTyped.isVar_of_mem_boundVariables List.not_mem_nil (by simp)
      rw [List.nil_append, List.nil_append, List.length_nil] at substituted
      rw [substituted]
      exact .contract bound.ty (.refl _) (.refl _)

theorem parallelStep_putPart {term part part' : Term} {number : Nat}
    (isPart : term.parts[number]? = some part)
    (step : ∀ scope, Nameless.ParallelStep (part.namelessIn scope) (part'.namelessIn scope))
    (scope : List Ident) :
    Nameless.ParallelStep (term.namelessIn scope) ((term.putPart number part').namelessIn scope) := by
  cases term with
  | ident _ => simp [parts] at isPart
  | binder kind bound body =>
      rcases number with _ | number <;> simp [parts] at isPart
      subst isPart
      exact .binder kind bound.ty (step (bound :: scope))
  | not operand =>
      rcases number with _ | number <;> simp [parts] at isPart
      subst isPart
      exact .not (step scope)
  | binary connective left right =>
      rcases number with _ | _ | number <;> simp [parts] at isPart <;> subst isPart
      · exact .binary connective (step scope) (.refl _)
      · exact .binary connective (.refl _) (step scope)
  | equal left right =>
      rcases number with _ | _ | number <;> simp [parts] at isPart <;> subst isPart
      · exact .equal (step scope) (.refl _)
      · exact .equal (.refl _) (step scope)
  | app function argument =>
      rcases number with _ | _ | number <;> simp [parts] at isPart <;> subst isPart
      · exact .app (step scope) (.refl _)
      · exact .app (.refl _) (step scope)

theorem parallelStep_putAt {term subterm subterm' : Term} {path : Path}
    (found : term.at? path = some subterm)
    (step : ∀ scope, Nameless.ParallelStep (subterm.namelessIn scope) (subterm'.namelessIn scope))
    (scope : List Ident) :
    Nameless.ParallelStep (term.namelessIn scope) ((term.putAt subterm' path).namelessIn scope) := by
  induction path generalizing term scope with
  | nil =>
      cases found
      exact step scope
  | cons number rest induction =>
      rw [at?_cons] at found
      obtain ⟨part, isPart, below⟩ := Option.bind_eq_some_iff.mp found
      simp only [putAt, isPart]
      exact parallelStep_putPart isPart (induction below) scope

theorem SimplyTyped.parallel_run {term result : Term} {ty : Ty} (typed : SimplyTyped term ty)
    (run : ReflTransGen Reduces term result) :
    ReflTransGen Nameless.ParallelStep term.nameless result.nameless := by
  induction run with
  | refl => exact .refl
  | tail before last runIH =>
      obtain ⟨step, reduced, rfl⟩ := last
      obtain ⟨path, found, redex, contracted, rebuilt⟩ := exists_contractsAt reduced
      obtain ⟨redexTy, redexTyped, -⟩ := (typed.run before).subterm found
      have parallel := parallelStep_putAt found
        (redexTyped.parallelStep_betaReduce redex contracted) []
      rw [rebuilt]
      exact runIH.tail parallel

theorem isAbstraction_of_namelessIn_eq {term : Term} {scope : List Ident} {ty : Ty}
    {body : Nameless} (same : term.namelessIn scope = .binder .lambda ty body) :
    term.isAbstraction = true := by
  cases term with
  | ident id =>
      simp only [namelessIn] at same
      split at same <;> contradiction
  | binder kind bound body =>
      cases same
      rfl
  | _ => contradiction

/-- The nameless form of a term without redexes has none either. -/
theorem IsNormal.isStuck {term : Term} (normal : term.IsNormal) (scope : List Ident) :
    (term.namelessIn scope).IsStuck := by
  intro result step
  induction term generalizing scope result with
  | ident id =>
      simp only [namelessIn] at step ⊢
      split at step <;> cases step <;> rfl
  | binder kind bound body bodyIH =>
      cases step with
      | binder _ _ below =>
          rw [bodyIH (isNormal_binder.mp normal) _ _ below]
          rfl
  | not operand operandIH =>
      cases step with
      | not below =>
          rw [operandIH (isNormal_not.mp normal) _ _ below]
          rfl
  | binary connective left right leftIH rightIH =>
      obtain ⟨leftNormal, rightNormal⟩ := isNormal_binary.mp normal
      cases step with
      | binary _ leftBelow rightBelow =>
          rw [leftIH leftNormal _ _ leftBelow, rightIH rightNormal _ _ rightBelow]
          rfl
  | equal left right leftIH rightIH =>
      obtain ⟨leftNormal, rightNormal⟩ := isNormal_equal.mp normal
      cases step with
      | equal leftBelow rightBelow =>
          rw [leftIH leftNormal _ _ leftBelow, rightIH rightNormal _ _ rightBelow]
          rfl
  | app function argument functionIH argumentIH =>
      obtain ⟨notRedex, functionNormal, argumentNormal⟩ := isNormal_app.mp normal
      rw [isRedex_app] at notRedex
      rcases Nameless.ParallelStep.app_cases step with
        ⟨function', argument', functionBelow, argumentBelow, rfl⟩ | ⟨ty, body, same⟩
      · rw [functionIH functionNormal _ _ functionBelow, argumentIH argumentNormal _ _ argumentBelow]
        rfl
      · rw [isAbstraction_of_namelessIn_eq same] at notRedex
        contradiction

/-- Two runs end alike, but for the names of bound variables, if one starts from what the other one
starts from with some redex contracted. -/
theorem RunsTo.alphabeticVariants {term other normal normal' : Term} {ty : Ty}
    (typed : SimplyTyped term ty) (otherTyped : SimplyTyped other ty)
    (step : Nameless.ParallelStep term.nameless other.nameless)
    (runs : RunsTo term normal) (otherRuns : RunsTo other normal') :
    AlphabeticVariants normal normal' := by
  have direct := typed.parallel_run runs.run
  have detour := (otherTyped.parallel_run otherRuns.run).head step
  exact Nameless.eq_of_reachable_of_isStuck direct detour (runs.isNormal.isStuck [])
    (otherRuns.isNormal.isStuck [])

/-- Whichever redex of a term without type variables is contracted first, its contraction succeeds,
and the normal form reached in the end is an alphabetic variant of the one that is reached
without it.  Both are reached by the steps of reduction. -/
theorem reduceWithin_of_contracted_redex {term redex : Term} {ty : Ty} {path : Path}
    (monomorphic : term.IsMonomorphic) (typed : term.typeOf = .ok ty)
    (found : term.at? path = some redex) (isRedex : redex.isRedex = true) :
    ∃ contracted, redex.betaReduce = .ok contracted ∧
      ∃ count normal normal', RunsTo term normal ∧
        RunsTo (term.putAt contracted.term path) normal' ∧ AlphabeticVariants normal normal' ∧
        ∀ limit, count ≤ limit →
          term.reduceWithin limit = .ok normal ∧
            (term.putAt contracted.term path).reduceWithin limit = .ok normal' := by
  have simply := simplyTyped_of_typeOf monomorphic typed
  obtain ⟨redexTy, redexTyped, exchange⟩ := simply.subterm found
  obtain ⟨contracted, succeeds, contractedTyped⟩ := redexTyped.betaReduce isRedex
  have otherTyped := exchange contracted.term contractedTyped
  have step := parallelStep_putAt found (redexTyped.parallelStep_betaReduce isRedex succeeds) []
  obtain ⟨normal, runs⟩ := simply.exists_runsTo
  obtain ⟨normal', otherRuns⟩ := otherTyped.exists_runsTo
  obtain ⟨count, counted⟩ := runs.exists_reduceCounting
  obtain ⟨otherCount, otherCounted⟩ := otherRuns.exists_reduceCounting
  have variants := RunsTo.alphabeticVariants simply otherTyped step runs otherRuns
  refine ⟨contracted, succeeds, max count otherCount, normal, normal', runs, otherRuns, variants, ?_⟩
  intro limit enough
  exact ⟨(counted limit limit).1 (Nat.le_trans (Nat.le_max_left _ _) enough),
    (otherCounted limit limit).1 (Nat.le_trans (Nat.le_max_right _ _) enough)⟩

/-- In `(λx[λy[(λz[R(x)(y)])(y')]])(y)` the free `y'` keeps the variant of the inner `y` from being
`y'` if the outer redex goes first, and is gone by then if the inner one does. -/
theorem reduceWithin_of_contracted_outer_redex :
    let x : Ident := ⟨.var, "x", .entity⟩
    let y : Ident := ⟨.var, "y", .entity⟩
    let y' : Ident := ⟨.var, "y'", .entity⟩
    let z : Ident := ⟨.var, "z", .entity⟩
    let r : Ident := ⟨.const, "R", .fn .entity .predicate⟩
    let inner := Term.app (lambda z (.app (.app (.ident r) (.ident x)) (.ident y))) (.ident y')
    let term := Term.app (lambda x (lambda y inner)) (.ident y)
    term.IsMonomorphic ∧ term.typeOf = .ok .predicate ∧ term.at? [] = some term ∧
      term.isRedex = true ∧
      ∃ contracted, term.betaReduce = .ok contracted ∧
        ∃ count normal normal', RunsTo term normal ∧
          RunsTo (term.putAt contracted.term []) normal' ∧ AlphabeticVariants normal normal' ∧
          ∀ limit, count ≤ limit →
            term.reduceWithin limit = .ok normal ∧
              (term.putAt contracted.term []).reduceWithin limit = .ok normal' := by
  intro x y y' z r inner term
  have monomorphic : term.IsMonomorphic := by decide
  have typed : term.typeOf = .ok .predicate := rfl
  exact ⟨monomorphic, typed, rfl, rfl, reduceWithin_of_contracted_redex monomorphic typed rfl rfl⟩

end Denotation.Term
