import Mathlib.Data.List.Basic
import Denotation.Proofs.Reduction.Stepwise

/-!
# The limit on steps

Automatic conversion and bounded reduction take the same limit and agree on what it means, as long as it
allows a step.  A conversion makes its first step before it looks at the limit, so a limit of no steps is
for it a limit of one, except that an error names the limit that was given.  Bounded reduction counts the
first step like any other.

So without any steps allowed, the two agree exactly if the first step cannot be made or is not the last.
-/

namespace Denotation.Term

theorem length_steps_le_of_convertCounting {limit steps : Nat} {term : Term} {conversion : Conversion}
    (converted : convertCounting limit steps term = .ok conversion) :
    conversion.steps.length ≤ steps := by
  induction steps generalizing term conversion with
  | zero =>
      rcases run : term.reduceOnce with error | _ | step
      · cases (convertCounting_of_error limit 0 run).symm.trans converted
      · cases (convertCounting_of_none limit 0 run).symm.trans converted
        exact Nat.le_refl 0
      · cases (convertCounting_zero_of_some limit run).symm.trans converted
  | succ remaining induction =>
      rcases run : term.reduceOnce with error | _ | step
      · cases (convertCounting_of_error limit _ run).symm.trans converted
      · cases (convertCounting_of_none limit _ run).symm.trans converted
        exact Nat.zero_le _
      · rw [convertCounting_succ_of_some limit remaining run] at converted
        cases rest : convertCounting limit remaining step.result with
        | error error =>
            rw [rest] at converted
            cases converted
        | ok later =>
            rw [rest] at converted
            cases converted
            exact Nat.succ_le_succ (induction rest)

theorem steps_ne_nil_of_convert {config : ConversionConfig} {term : Term} {conversion : Conversion}
    (converted : term.convert config = .ok conversion) : conversion.steps ≠ [] := by
  obtain ⟨outcome, -, converted⟩ := bind_eq_ok_iff.mp converted
  cases outcome with
  | none => cases converted
  | some step =>
      cases mode : config.mode with
      | stepwise =>
          simp only [mode] at converted
          cases converted
          exact List.cons_ne_nil _ _
      | automatic =>
          simp only [mode] at converted
          obtain ⟨rest, -, reported⟩ := bind_eq_ok_iff.mp converted
          cases reported
          exact List.cons_ne_nil _ _

section Limit

variable {term : Term}

theorem convert_map_result (limit : Nat) (reducible : term.reduceOnce ≠ .ok none) :
    (term.convert { mode := .automatic, stepLimit := limit }).map Conversion.result =
      (term.reduceWithin (max limit 1)).mapError (ConversionError.withLimit limit) := by
  rw [convert_automatic_eq_max limit reducible, convertCounting_map_result]
  exact reduceCounting_withLimit limit (max limit 1) (max limit 1) term

/-- With no steps allowed, it depends on the second step whether the one that is made all the same shows. -/
theorem convert_map_result_eq_reduceWithin_zero_iff (reducible : term.reduceOnce ≠ .ok none) :
    (term.convert { mode := .automatic, stepLimit := 0 }).map Conversion.result = term.reduceWithin 0 ↔
      ∀ step, term.reduceOnce = .ok (some step) → ∃ next, step.result.reduceOnce = .ok (some next) := by
  rw [convert_automatic_eq_max 0 reducible, convertCounting_map_result, reduceWithin]
  rcases run : term.reduceOnce with error | _ | step
  · rw [reduceCounting_of_error 0 _ run, reduceCounting_of_error 0 _ run]
    refine iff_of_true rfl ?_
    intro step reduced
    cases reduced
  · exact absurd run reducible
  · rw [show max 0 1 = 0 + 1 from rfl, reduceCounting_succ_of_some 0 0 run,
      reduceCounting_zero_of_some 0 run]
    simp only [Except.ok.injEq, Option.some.injEq, forall_eq']
    rcases second : step.result.reduceOnce with error | _ | next
    · obtain ⟨cause, rfl⟩ := exists_typing_of_reduceOnce second
      rw [reduceCounting_of_error 0 0 second]
      refine iff_of_false ?_ ?_
      · intro same
        cases same
      · rintro ⟨next, reduced⟩
        cases reduced
    · rw [reduceCounting_of_none 0 0 second]
      refine iff_of_false ?_ ?_
      · intro same
        cases same
      · rintro ⟨next, reduced⟩
        cases reduced
    · rw [reduceCounting_zero_of_some 0 second]
      exact iff_of_true rfl ⟨next, rfl⟩

end Limit

/-- Automatic conversion of a term with a redex has the outcome of bounded reduction with the same limit,
except that it takes a limit of 0 for one of 1 and then agrees only if there is no first step or a second
one.  It never reports more steps than that. -/
theorem convert_eq_reduceWithin_iff (term : Term) (limit : Nat) (reducible : ¬ term.IsNormal) :
    ((term.convert { mode := .automatic, stepLimit := limit }).map Conversion.result =
        term.reduceWithin limit ↔
      1 ≤ limit ∨ ∀ step, term.reduceOnce = .ok (some step) →
        ∃ next, step.result.reduceOnce = .ok (some next)) ∧
    (term.convert { mode := .automatic, stepLimit := limit }).map Conversion.result =
      (term.reduceWithin (max limit 1)).mapError (ConversionError.withLimit limit) ∧
    ∀ conversion, term.convert { mode := .automatic, stepLimit := limit } = .ok conversion →
      1 ≤ conversion.steps.length ∧ conversion.steps.length ≤ max limit 1 := by
  have reduces : term.reduceOnce ≠ .ok none := fun none => reducible (reduceOnce_eq_none_iff.mp none)
  refine ⟨?_, convert_map_result limit reduces, fun conversion converted => ⟨?_, ?_⟩⟩
  · cases limit with
    | zero =>
        rw [convert_map_result_eq_reduceWithin_zero_iff reduces]
        exact (or_iff_right (by decide)).symm
    | succ limit =>
        have positive : 1 ≤ limit + 1 := Nat.le_add_left 1 limit
        refine iff_of_true ?_ (Or.inl positive)
        rw [convert_automatic_eq positive reduces, convertCounting_map_result]
        rfl
  · exact List.length_pos_iff.mpr (steps_ne_nil_of_convert converted)
  · rw [convert_automatic_eq_max limit reduces] at converted
    exact length_steps_le_of_convertCounting converted

/-- A conjunction of two redexes is left with one of them when the first step is made, so both run into a
limit of 0. -/
theorem convert_eq_reduceWithin_iff_two_redexes :
    let x : Ident := ⟨.var, "x", .entity⟩
    let john := Term.ident ⟨.const, "John", .entity⟩
    let happy := Term.ident ⟨.const, "Happy", .predicate⟩
    let redex := Term.app (lambda x (.app happy (.ident x))) john
    let contractum := Term.app happy john
    let term := Term.binary .and redex redex
    ¬ term.IsNormal ∧
      (term.convert { mode := .automatic, stepLimit := 0 }).map Conversion.result =
        .error (.stepLimitExceeded 0) ∧
      term.reduceWithin 0 = .error (.stepLimitExceeded 0) ∧
      (term.convert { mode := .automatic, stepLimit := 2 }).map Conversion.result =
        .ok (.binary .and contractum contractum) := by
  intro x john happy redex contractum term
  have reducible : ¬ term.IsNormal := fun normal => nomatch normal redex ⟨[0], rfl⟩
  let first : Step := ⟨redex, contractum, [], .binary .and contractum redex⟩
  let second : Step := ⟨redex, contractum, [], .binary .and contractum contractum⟩
  have firstReduced : term.reduceOnce = .ok (some first) := by cbv
  have secondReduced : first.result.reduceOnce = .ok (some second) := by cbv
  have exceeded : term.reduceWithin 0 = .error (.stepLimitExceeded 0) :=
    reduceCounting_zero_of_some 0 firstReduced
  have reached : term.reduceWithin 2 = .ok second.result := by cbv
  have goesOn : ∀ step, term.reduceOnce = .ok (some step) →
      ∃ next, step.result.reduceOnce = .ok (some next) := by
    intro step reduced
    cases firstReduced.symm.trans reduced
    exact ⟨second, secondReduced⟩
  have withoutSteps := (convert_eq_reduceWithin_iff term 0 reducible).1.mpr (Or.inr goesOn)
  have withTwo := (convert_eq_reduceWithin_iff term 2 reducible).1.mpr (Or.inl (by decide))
  exact ⟨reducible, withoutSteps.trans exceeded, exceeded, withTwo.trans reached⟩

/-- A conversion that is allowed no steps contracts the only redex of `(λx[Happy(x)])(John)`, where bounded
reduction reports that the limit is exceeded. -/
theorem convert_zero_limit_reports_step :
    let x : Ident := ⟨.var, "x", .entity⟩
    let john := Term.ident ⟨.const, "John", .entity⟩
    let happy := Term.ident ⟨.const, "Happy", .predicate⟩
    let redex := Term.app (lambda x (.app happy (.ident x))) john
    let contractum := Term.app happy john
    redex.isRedex = true ∧
      redex.convert { mode := .automatic, stepLimit := 0 } =
        .ok ⟨[⟨redex, contractum, [], contractum⟩], contractum⟩ ∧
      redex.reduceWithin 0 = .error (.stepLimitExceeded 0) := by
  intro x john happy redex contractum
  refine ⟨rfl, ?_, ?_⟩
  · cbv
  · cbv

end Denotation.Term
