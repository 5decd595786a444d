import Denotation.Proofs.Reduction.Preservation

/-!
# Normalization

Reduction of a simply typed term ends.  It always contracts an innermost redex, so the body and the
argument of a contracted redex have no redexes of their own, and the contractum is a substitution of
one term without redexes into another.  What such a substitution can bring about is a new redex where
the replacement, an abstraction, gets to the head of an application.  Its function then has a type
that is a part of the type of the variable, so the next variable to be replaced has a smaller type
than the one before.

The argument is an induction on the size of the type of the variable, and inside of it one on the
term that is substituted into.
-/

namespace Denotation

/-- The number of parts that the type is made of, itself included. -/
def Ty.size : Ty → Nat
  | .const _ => 1
  | .var _ => 1
  | .fn domain range => domain.size + range.size + 1

namespace Term

open Relation

/-- Whether the term is a lambda abstraction. -/
def isAbstraction : Term → Bool
  | .binder .lambda _ _ => true
  | _ => false

theorem isRedex_app (function argument : Term) :
    (Term.app function argument).isRedex = function.isAbstraction := by
  cases function with
  | binder kind _ _ => cases kind <;> rfl
  | _ => rfl

theorem isAbstraction_binder (kind : BinderKind) (bound bound' : Ident) (body body' : Term) :
    (Term.binder kind bound body).isAbstraction = (Term.binder kind bound' body').isAbstraction := by
  cases kind <;> rfl

theorem isAbstraction_eq_true_iff {term : Term} :
    term.isAbstraction = true ↔ ∃ bound body, term = .binder .lambda bound body := by
  constructor
  · intro abstraction
    unfold isAbstraction at abstraction
    split at abstraction
    · exact ⟨_, _, rfl⟩
    · contradiction
  · rintro ⟨bound, body, rfl⟩
    rfl

theorem isAbstraction_rename (term : Term) (old new : Ident) :
    (term.rename old new).isAbstraction = term.isAbstraction := by
  cases term with
  | ident id => simp only [rename]; split <;> rfl
  | binder kind bound body =>
      simp only [rename]
      split
      · rfl
      · exact isAbstraction_binder kind bound bound _ _
  | _ => rfl

theorem IsNormal.rename {term : Term} (normal : term.IsNormal) (old new : Ident) :
    (term.rename old new).IsNormal := by
  induction term with
  | ident id => simp only [Term.rename]; split <;> exact isNormal_ident _
  | binder kind bound body bodyIH =>
      simp only [Term.rename]
      split
      · exact normal
      · exact isNormal_binder.mpr (bodyIH (isNormal_binder.mp normal))
  | not operand operandIH => exact isNormal_not.mpr (operandIH (isNormal_not.mp normal))
  | binary connective left right leftIH rightIH =>
      obtain ⟨leftNormal, rightNormal⟩ := isNormal_binary.mp normal
      exact isNormal_binary.mpr ⟨leftIH leftNormal, rightIH rightNormal⟩
  | equal left right leftIH rightIH =>
      obtain ⟨leftNormal, rightNormal⟩ := isNormal_equal.mp normal
      exact isNormal_equal.mpr ⟨leftIH leftNormal, rightIH rightNormal⟩
  | app function argument functionIH argumentIH =>
      obtain ⟨notRedex, functionNormal, argumentNormal⟩ := isNormal_app.mp normal
      rw [isRedex_app] at notRedex
      have stillNot : (Term.app (function.rename old new) (argument.rename old new)).isRedex =
          false := by
        rw [isRedex_app, isAbstraction_rename, notRedex]
      exact isNormal_app.mpr ⟨stillNot, functionIH functionNormal, argumentIH argumentNormal⟩

theorem RunsTo.of_isNormal {term : Term} (normal : term.IsNormal) : RunsTo term term :=
  ⟨.refl, normal⟩

theorem RunsTo.after {term next normal : Term} (run : ReflTransGen Reduces term next)
    (runs : RunsTo next normal) : RunsTo term normal :=
  ⟨run.trans runs.run, runs.isNormal⟩

/-- A run can be made inside of a node if each of its steps can. -/
theorem run_within {enclose : Term → Term} {term result : Term}
    (within : ∀ {before after}, Reduces before after → Reduces (enclose before) (enclose after))
    (run : ReflTransGen Reduces term result) :
    ReflTransGen Reduces (enclose term) (enclose result) := by
  induction run with
  | refl => exact .refl
  | tail _ last runIH => exact runIH.tail (within last)

theorem RunsTo.binder {body normal : Term} (kind : BinderKind) (bound : Ident)
    (runs : RunsTo body normal) : RunsTo (.binder kind bound body) (.binder kind bound normal) where
  run := run_within Reduces.binder runs.run
  isNormal := isNormal_binder.mpr runs.isNormal

theorem RunsTo.not {operand normal : Term} (runs : RunsTo operand normal) :
    RunsTo (.not operand) (.not normal) where
  run := run_within Reduces.not runs.run
  isNormal := isNormal_not.mpr runs.isNormal

theorem RunsTo.binary {left left' right right' : Term} (connective : Connective)
    (leftRuns : RunsTo left left') (rightRuns : RunsTo right right') :
    RunsTo (.binary connective left right) (.binary connective left' right') where
  run := (run_within Reduces.binaryLeft leftRuns.run).trans
    (run_within (Reduces.binaryRight leftRuns.isNormal) rightRuns.run)
  isNormal := isNormal_binary.mpr ⟨leftRuns.isNormal, rightRuns.isNormal⟩

theorem RunsTo.equal {left left' right right' : Term} (leftRuns : RunsTo left left')
    (rightRuns : RunsTo right right') : RunsTo (.equal left right) (.equal left' right') where
  run := (run_within Reduces.equalLeft leftRuns.run).trans
    (run_within (Reduces.equalRight leftRuns.isNormal) rightRuns.run)
  isNormal := isNormal_equal.mpr ⟨leftRuns.isNormal, rightRuns.isNormal⟩

theorem RunsTo.app {function function' argument argument' : Term}
    (functionRuns : RunsTo function function') (argumentRuns : RunsTo argument argument') :
    ReflTransGen Reduces (.app function argument) (.app function' argument') :=
  (run_within Reduces.function functionRuns.run).trans
    (run_within (Reduces.argument functionRuns.isNormal) argumentRuns.run)

/-- Substituting a term without redexes for a variable whose type has the size, in a term without
redexes, can make new ones, but reducing them ends.  The result is an abstraction only if there was
one before, or if the replacement came to the head of the term, whose type is then a part of that of
the variable. -/
def SubstitutionEnds (size : Nat) : Prop :=
  ∀ {target : Ident} {term replacement : Term} {ty : Ty} (log : List Renaming),
    target.ty.size = size → SimplyTyped term ty → term.IsNormal →
      SimplyTyped replacement target.ty → replacement.IsNormal →
        ∃ result, RunsTo (term.substitute target replacement log).term result ∧
          (result.isAbstraction = true → term.isAbstraction = true ∨ ty.size ≤ size)

/-- When the parts of an application have been reduced, it is either done or contracted, and then the
bound variable has a smaller type than the function. -/
theorem SimplyTyped.app_runs {size : Nat} (ends : ∀ smaller < size, SubstitutionEnds smaller)
    {function function' argument argument' : Term} {domain range : Ty}
    (functionTyped : SimplyTyped function (.fn domain range))
    (argumentTyped : SimplyTyped argument domain) (functionRuns : RunsTo function function')
    (argumentRuns : RunsTo argument argument')
    (small : function'.isAbstraction = true → (Ty.fn domain range).size ≤ size) :
    ∃ result, RunsTo (.app function argument) result ∧
      (result.isAbstraction = true → range.size ≤ size) := by
  have run := functionRuns.app argumentRuns
  have functionTyped' := functionTyped.run functionRuns.run
  have argumentTyped' := argumentTyped.run argumentRuns.run
  cases abstraction : function'.isAbstraction with
  | false =>
      have notRedex : (Term.app function' argument').isRedex = false := by
        rw [isRedex_app, abstraction]
      have normal := isNormal_app.mpr ⟨notRedex, functionRuns.isNormal, argumentRuns.isNormal⟩
      exact ⟨_, ⟨run, normal⟩, fun abstracted => by simp [isAbstraction] at abstracted⟩
  | true =>
      have sized := small abstraction
      simp only [Ty.size] at sized
      obtain ⟨bound, body, rfl⟩ := isAbstraction_eq_true_iff.mp abstraction
      have contracted := (SimplyTyped.app functionTyped' argumentTyped').betaReduce_eq.1
      have last := Reduces.contract functionRuns.isNormal argumentRuns.isNormal rfl contracted
      cases functionTyped' with
      | lambda _ _ bodyTyped =>
          obtain ⟨result, runs, -⟩ := ends bound.ty.size (by omega) [] rfl bodyTyped
            (isNormal_binder.mp functionRuns.isNormal) argumentTyped' argumentRuns.isNormal
          exact ⟨result, runs.after (run.tail last), fun _ => by omega⟩

theorem substitutionEnds (size : Nat) : SubstitutionEnds size := by
  induction size using Nat.strongRecOn with
  | ind size ends =>
      intro target term replacement ty log sized typed normal replaced replacementNormal
      induction term, log using Term.substitute.induct target replacement generalizing ty with
      | case1 log id =>
          rw [Term.substitute]
          by_cases same : id = target
          · subst same
            cases typed
            rw [if_pos rfl]
            exact ⟨replacement, .of_isNormal replacementNormal,
              fun _ => Or.inr (Nat.le_of_eq sized)⟩
          · rw [if_neg same]
            exact ⟨_, .of_isNormal normal, Or.inl⟩
      | case2 log kind bound body untouched =>
          rw [Term.substitute, if_pos untouched]
          exact ⟨_, .of_isNormal normal, Or.inl⟩
      | @case3 log kind bound body passes clash variant bodyIH =>
          obtain ⟨bodyTy, bodyTyped, -⟩ := typed.under_binder
          obtain ⟨result, runs, -⟩ :=
            bodyIH (bodyTyped.rename rfl) ((isNormal_binder.mp normal).rename bound variant)
          rw [Term.substitute, if_neg passes, if_pos clash]
          exact ⟨_, runs.binder kind variant, fun abstraction =>
            Or.inl (isAbstraction_binder kind bound variant body result ▸ abstraction)⟩
      | case4 log kind bound body passes noClash bodyIH =>
          obtain ⟨bodyTy, bodyTyped, -⟩ := typed.under_binder
          obtain ⟨result, runs, -⟩ := bodyIH bodyTyped (isNormal_binder.mp normal)
          rw [Term.substitute, if_neg passes, if_neg noClash]
          exact ⟨_, runs.binder kind bound, fun abstraction =>
            Or.inl (isAbstraction_binder kind bound bound body result ▸ abstraction)⟩
      | case5 log operand operandIH =>
          cases typed with
          | not operandTyped =>
              obtain ⟨result, runs, -⟩ := operandIH operandTyped (isNormal_not.mp normal)
              rw [Term.substitute]
              exact ⟨_, runs.not, fun abstraction => by simp [isAbstraction] at abstraction⟩
      | @case6 log connective left right first leftIH rightIH =>
          cases typed with
          | binary leftTyped rightTyped =>
              obtain ⟨leftNormal, rightNormal⟩ := isNormal_binary.mp normal
              obtain ⟨left', leftRuns, -⟩ := leftIH leftTyped leftNormal
              obtain ⟨right', rightRuns, -⟩ := rightIH rightTyped rightNormal
              rw [Term.substitute]
              exact ⟨_, leftRuns.binary connective rightRuns,
                fun abstraction => by simp [isAbstraction] at abstraction⟩
      | @case7 log left right first leftIH rightIH =>
          cases typed with
          | equal leftTyped rightTyped =>
              obtain ⟨leftNormal, rightNormal⟩ := isNormal_equal.mp normal
              obtain ⟨left', leftRuns, -⟩ := leftIH leftTyped leftNormal
              obtain ⟨right', rightRuns, -⟩ := rightIH rightTyped rightNormal
              rw [Term.substitute]
              exact ⟨_, leftRuns.equal rightRuns,
                fun abstraction => by simp [isAbstraction] at abstraction⟩
      | @case8 log function argument first functionIH argumentIH =>
          cases typed with
          | @app _ _ domain _ functionTyped argumentTyped =>
              obtain ⟨notRedex, functionNormal, argumentNormal⟩ := isNormal_app.mp normal
              rw [isRedex_app] at notRedex
              obtain ⟨function', functionRuns, functionSmall⟩ :=
                functionIH functionTyped functionNormal
              obtain ⟨argument', argumentRuns, -⟩ := argumentIH argumentTyped argumentNormal
              have functionTyped' := functionTyped.substitute replaced log
              have argumentTyped' := argumentTyped.substitute replaced first.log
              -- The function was no abstraction before: its type is no larger than the variable's.
              have small : function'.isAbstraction = true → (Ty.fn domain ty).size ≤ size :=
                fun abstraction => (functionSmall abstraction).resolve_left (by simp [notRedex])
              obtain ⟨result, runs, resultSmall⟩ :=
                functionTyped'.app_runs ends argumentTyped' functionRuns argumentRuns small
              rw [Term.substitute]
              exact ⟨result, runs, fun abstraction => Or.inr (resultSmall abstraction)⟩

theorem SimplyTyped.exists_runsTo {term : Term} {ty : Ty} (typed : SimplyTyped term ty) :
    ∃ normal, RunsTo term normal := by
  induction typed with
  | ident id _ => exact ⟨_, .of_isNormal (isNormal_ident id)⟩
  | lambda _ _ _ bodyIH =>
      obtain ⟨body', runs⟩ := bodyIH
      exact ⟨_, runs.binder _ _⟩
  | existential _ _ _ bodyIH =>
      obtain ⟨body', runs⟩ := bodyIH
      exact ⟨_, runs.binder _ _⟩
  | universal _ _ _ bodyIH =>
      obtain ⟨body', runs⟩ := bodyIH
      exact ⟨_, runs.binder _ _⟩
  | iota _ _ _ bodyIH =>
      obtain ⟨body', runs⟩ := bodyIH
      exact ⟨_, runs.binder _ _⟩
  | not _ operandIH =>
      obtain ⟨operand', runs⟩ := operandIH
      exact ⟨_, runs.not⟩
  | binary _ _ leftIH rightIH =>
      obtain ⟨left', leftRuns⟩ := leftIH
      obtain ⟨right', rightRuns⟩ := rightIH
      exact ⟨_, leftRuns.binary _ rightRuns⟩
  | equal _ _ leftIH rightIH =>
      obtain ⟨left', leftRuns⟩ := leftIH
      obtain ⟨right', rightRuns⟩ := rightIH
      exact ⟨_, leftRuns.equal rightRuns⟩
  | app functionTyped argumentTyped functionIH argumentIH =>
      obtain ⟨function', functionRuns⟩ := functionIH
      obtain ⟨argument', argumentRuns⟩ := argumentIH
      obtain ⟨result, runs, -⟩ := functionTyped.app_runs (fun smaller _ => substitutionEnds smaller)
        argumentTyped functionRuns argumentRuns (fun _ => Nat.le_refl _)
      exact ⟨result, runs⟩

/-- Reduction of a term without type variables ends in a term of the same type without redexes, which
its steps lead to, after a number of steps that does not depend on how many are allowed. -/
theorem reduceWithin_normalizes {term : Term} {ty : Ty} (monomorphic : term.IsMonomorphic)
    (typed : term.typeOf = .ok ty) :
    ∃ count normal, ReflTransGen Reduces term normal ∧ normal.IsNormal ∧
      normal.typeOf = term.typeOf ∧
      (∀ limit, count ≤ limit → term.reduceWithin limit = .ok normal) ∧
      ∀ limit, limit < count → term.reduceWithin limit = .error (.stepLimitExceeded limit) := by
  have simply := simplyTyped_of_typeOf monomorphic typed
  obtain ⟨normal, runs⟩ := simply.exists_runsTo
  obtain ⟨count, counted⟩ := runs.exists_reduceCounting
  have preserved : normal.typeOf = term.typeOf := (simply.run runs.run).typeOf_eq.trans typed.symm
  exact ⟨count, normal, runs.run, runs.isNormal, preserved, fun limit => (counted limit limit).1,
    fun limit => (counted limit limit).2⟩

/-- In `(λf[f(a)])(λx[P(x)])` the second redex is made by contracting the first one. -/
theorem reduceWithin_normalizes_new_redex :
    let f : Ident := ⟨.var, "f", .predicate⟩
    let x : Ident := ⟨.var, "x", .entity⟩
    let a : Ident := ⟨.const, "a", .entity⟩
    let p : Ident := ⟨.const, "P", .predicate⟩
    let term := Term.app (lambda f (.app (.ident f) (.ident a)))
      (lambda x (.app (.ident p) (.ident x)))
    term.IsMonomorphic ∧ term.typeOf = .ok .truth ∧
      ∃ count normal, ReflTransGen Reduces term normal ∧ normal.IsNormal ∧
        normal.typeOf = term.typeOf ∧
        (∀ limit, count ≤ limit → term.reduceWithin limit = .ok normal) ∧
        ∀ limit, limit < count → term.reduceWithin limit = .error (.stepLimitExceeded limit) := by
  intro f x a p term
  have monomorphic : term.IsMonomorphic := by decide
  have typed : term.typeOf = .ok .truth := rfl
  exact ⟨monomorphic, typed, reduceWithin_normalizes monomorphic typed⟩

end Term

end Denotation
