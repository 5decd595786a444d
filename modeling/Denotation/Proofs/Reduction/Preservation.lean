import Denotation.Proofs.Reduction.Stepwise
import Denotation.Proofs.Typing.SimpleSubstitution

/-!
# Types under reduction

In a simply typed term every redex can be contracted, and its contractum has the type of the redex.
A step exchanges a subterm for one of the same type, so it keeps the type of the whole term, and with
it every later step does.
-/

namespace Denotation.Term

theorem SimplyTyped.betaReduce_eq {bound : Ident} {body argument : Term} {ty : Ty}
    (typed : SimplyTyped (.app (.binder .lambda bound body) argument) ty) :
    betaReduce (.app (.binder .lambda bound body) argument) =
        .ok (body.substitute bound argument []) ∧
      SimplyTyped (body.substitute bound argument []).term ty := by
  cases typed with
  | app functionTyped argumentTyped =>
      cases functionTyped with
      | lambda isVar concrete bodyTyped =>
          have fits := Ty.compatible_self bound.ty
          exact ⟨betaReduce_of_concrete body isVar concrete argumentTyped.typeOf_eq fits,
            bodyTyped.substitute argumentTyped []⟩

theorem SimplyTyped.betaReduce {redex : Term} {ty : Ty} (typed : SimplyTyped redex ty)
    (isRedex : redex.isRedex = true) :
    ∃ contracted, redex.betaReduce = .ok contracted ∧ SimplyTyped contracted.term ty := by
  obtain ⟨bound, body, argument, rfl⟩ := isRedex_eq_true_iff.mp isRedex
  exact ⟨_, typed.betaReduce_eq⟩

theorem SimplyTyped.contractsAt {term : Term} {ty : Ty} {step : Step} {path : Path}
    (typed : SimplyTyped term ty) (contracts : ContractsAt step term path) :
    SimplyTyped step.result ty ∧
      ∃ redexTy, SimplyTyped step.redex redexTy ∧ SimplyTyped step.contractum redexTy := by
  obtain ⟨found, redex, contracted, rebuilt⟩ := contracts
  obtain ⟨redexTy, redexTyped, exchange⟩ := typed.subterm found
  obtain ⟨result, succeeds, resultTyped⟩ := redexTyped.betaReduce redex
  cases contracted.symm.trans succeeds
  exact ⟨rebuilt ▸ exchange step.contractum resultTyped, redexTy, redexTyped, resultTyped⟩

theorem SimplyTyped.reduces {term result : Term} {ty : Ty} (typed : SimplyTyped term ty)
    (reduces : Reduces term result) : SimplyTyped result ty := by
  obtain ⟨step, run, rfl⟩ := reduces
  obtain ⟨path, contracts⟩ := exists_contractsAt run
  exact (typed.contractsAt contracts).1

theorem SimplyTyped.run {term result : Term} {ty : Ty} (typed : SimplyTyped term ty)
    (run : Relation.ReflTransGen Reduces term result) : SimplyTyped result ty := by
  induction run with
  | refl => exact typed
  | tail _ last runIH => exact runIH.reduces last

/-- Every conversion of a stepwise history makes one step from a term that the run has reached. -/
theorem exists_step_of_mem_history {term : Term} {count : Nat} {conversion : Conversion}
    (member : conversion ∈ (term.history count).1) :
    ∃ reached step, Relation.ReflTransGen Reduces term reached ∧
      reached.reduceOnce = .ok (some step) ∧ conversion = ⟨[step], step.result⟩ := by
  induction count generalizing term with
  | zero => simp [history] at member
  | succ count induction =>
      rw [history] at member
      cases converted : term.convert { mode := .stepwise } with
      | error error => simp [converted] at member
      | ok first =>
          obtain ⟨step, run, rfl⟩ := convert_stepwise_eq_ok_iff.mp converted
          simp only [converted, List.mem_cons] at member
          rcases member with rfl | later
          · exact ⟨term, step, .refl, run, rfl⟩
          · obtain ⟨reached, next, below, nextRun, same⟩ := induction later
            exact ⟨reached, next, below.head ⟨step, run, rfl⟩, nextRun, same⟩

/-- Reduction keeps the type of a term without type variables, step by step and through any stepwise
history, and each contractum has the type of its redex. -/
theorem typeOf_preserved {term : Term} {ty : Ty} (monomorphic : term.IsMonomorphic)
    (typed : term.typeOf = .ok ty) :
    (∀ step, term.reduceOnce = .ok (some step) →
      step.result.typeOf = .ok ty ∧ step.contractum.typeOf = step.redex.typeOf) ∧
    ∀ count, ∀ conversion ∈ (term.history count).1,
      conversion.result.typeOf = .ok ty ∧
        ∀ step ∈ conversion.steps,
          step.result.typeOf = .ok ty ∧ step.contractum.typeOf = step.redex.typeOf := by
  have atStep : ∀ reached step, SimplyTyped reached ty → reached.reduceOnce = .ok (some step) →
      step.result.typeOf = .ok ty ∧ step.contractum.typeOf = step.redex.typeOf := by
    intro reached step reachedTyped run
    obtain ⟨path, contracts⟩ := exists_contractsAt run
    obtain ⟨resultTyped, redexTy, redexTyped, contractumTyped⟩ := reachedTyped.contractsAt contracts
    exact ⟨resultTyped.typeOf_eq, contractumTyped.typeOf_eq.trans redexTyped.typeOf_eq.symm⟩
  have simply := simplyTyped_of_typeOf monomorphic typed
  refine ⟨fun step run => atStep term step simply run, fun count conversion member => ?_⟩
  obtain ⟨reached, step, below, run, rfl⟩ := exists_step_of_mem_history member
  have preserved := atStep reached step (simply.run below) run
  exact ⟨preserved.1, fun only onlyMember => List.mem_singleton.mp onlyMember ▸ preserved⟩

/-- Contracting `(λx[λy[R(x)(y)]])(y)` renames the inner binder, which shows in no type. -/
theorem typeOf_preserved_under_variant :
    let x : Ident := ⟨.var, "x", .entity⟩
    let y : Ident := ⟨.var, "y", .entity⟩
    let y' : Ident := ⟨.var, "y'", .entity⟩
    let r : Ident := ⟨.const, "R", .fn .entity .predicate⟩
    let redex := Term.app
      (lambda x (lambda y (.app (.app (.ident r) (.ident x)) (.ident y)))) (.ident y)
    let contractum := lambda y' (.app (.app (.ident r) (.ident y)) (.ident y'))
    redex.IsMonomorphic ∧ redex.typeOf = .ok .predicate ∧
      redex.reduceOnce = .ok (some ⟨redex, contractum, [⟨y, y'⟩], contractum⟩) ∧
      contractum.typeOf = .ok .predicate ∧
      ∀ count, ∀ conversion ∈ (redex.history count).1, conversion.result.typeOf = .ok .predicate := by
  intro x y y' r redex contractum
  have monomorphic : redex.IsMonomorphic := by decide
  have typed : redex.typeOf = .ok .predicate := rfl
  have run : redex.reduceOnce = .ok (some ⟨redex, contractum, [⟨y, y'⟩], contractum⟩) := by cbv
  refine ⟨monomorphic, typed, run, ((typeOf_preserved monomorphic typed).1 _ run).1, ?_⟩
  intro count conversion member
  exact ((typeOf_preserved monomorphic typed).2 count conversion member).1

end Denotation.Term
